import EndpointStubs.Syntax.Operators
import EndpointStubs.Syntax.Patterns

/-!
# Expressions

An expression is an atom with what trails it, with operators in front and between. Where a
block may follow, structure literals are not read.
-/

namespace EndpointStubs.Syntax

open Parse

/-! ## What an expression can start with -/

/-- The word `for` introduces parameters of a closure, and no loop. -/
def introducesParams (ts : List TokenTree) : Bool :=
  Ahead.isWord "for" ts && startsParams (Ahead.skip ts)

/-- A construct that ends in a block and needs no separator after it. -/
def startsBlockLike (ts : List TokenTree) : Bool :=
  let next := Ahead.skip ts
  Ahead.isWordOf ["if", "while", "loop", "match", "unsafe"] ts ||
    (Ahead.isWord "for" ts && !introducesParams ts) ||
    (Ahead.isWordOf ["try", "const"] ts && Ahead.isGroup .brace next) ||
    Ahead.isGroup .brace ts || Ahead.isLifetime ts

/-- A block that runs later. -/
def startsAsync (ts : List TokenTree) : Bool :=
  let next := Ahead.skip ts
  Ahead.isWord "async" ts && (Ahead.isGroup .brace next ||
    (Ahead.isWord "move" next && Ahead.isGroup .brace (Ahead.skip next)))

def startsClosure (ts : List TokenTree) : Bool :=
  let next := Ahead.skip ts
  Ahead.isPunct "|" ts || Ahead.isWordOf ["move", "static"] ts || introducesParams ts ||
    (Ahead.isWord "const" ts && !Ahead.isGroup .brace next) ||
    (Ahead.isWord "async" ts && (Ahead.isPunct "|" next || Ahead.isWord "move" next))

def startsPathExpr (ts : List TokenTree) : Bool :=
  startsPath ts || (Ahead.isWord "try" ts &&
    (Ahead.isPunct "!" (Ahead.skip ts) || Ahead.isPunct "::" (Ahead.skip ts)))

def startsExpr (ts : List TokenTree) : Bool :=
  (Ahead.isAnyWord ts && !Ahead.isWord "as" ts) || Ahead.isAnyGroup ts || Ahead.isLiteral ts ||
    (Ahead.isPunct "!" ts && !Ahead.isPunct "!=" ts) ||
    (Ahead.isPunct "-" ts && !Ahead.isPunct "-=" ts && !Ahead.isPunct "->" ts) ||
    (Ahead.isPunct "*" ts && !Ahead.isPunct "*=" ts) ||
    (Ahead.isPunct "|" ts && !Ahead.isPunct "|=" ts) ||
    (Ahead.isPunct "&" ts && !Ahead.isPunct "&=" ts) || Ahead.isPunct ".." ts ||
    (Ahead.isPunct "<" ts && !Ahead.isPunct "<=" ts && !Ahead.isPunct "<<=" ts) ||
    Ahead.isPunct "::" ts || Ahead.isLifetime ts || Ahead.isPunct "#" ts

section
variable (g : Grammar)

/-! ## Blocks -/

/-- Statements in braces, with attributes at the start. -/
def body : Parse Unit := do
  group .brace do
    let _ ← innerAttributes g
    g.statements

/-- A condition; a block follows it. -/
def condition : Parse Unit := do
  let _ ← g.expr false

/-- `if` with all its branches. -/
def ifChain : Nat → Parse Unit
  | 0 => failure
  | n + 1 => do
    word "if"
    condition g
    block g
    if ← word? "else" then
      if ← ahead (Ahead.isWord "if") then ifChain n else block g

def arm : Parse Unit := do
  let _ ← outerAttributes g
  let _ ← alternatives g
  if ← word? "if" then
    let _ ← g.expr true
  punct "=>"
  let e ← g.early
  let last ← atEnd
  if e matches .block || last then
    let _ ← punct? ","
  else punct ","

def matchExpr : Parse Unit := do
  word "match"
  condition g
  group .brace do
    let _ ← innerAttributes g
    let _ ← many (arm g)

/-- A loop, after its label. -/
def loopExpr : Parse Unit := do
  if ← word? "while" then condition g
  else if ← word? "for" then
    let _ ← alternatives g
    word "in"
    condition g
  else word "loop"
  body g

/-- A construct that ends in a block. -/
def blockLike : Parse Unit := do
  let ts ← rest
  if Ahead.isLifetime ts then
    lifetime
    punct ":"
    if ← ahead (Ahead.isGroup .brace) then body g else loopExpr g
  else if Ahead.isWord "if" ts then ifChain g ((← rest).length + 1)
  else if Ahead.isWord "match" ts then matchExpr g
  else if Ahead.isWordOf ["while", "for", "loop"] ts then loopExpr g
  else if Ahead.isWord "try" ts then
    word "try"
    block g
  else
    if ← ahead Ahead.isAnyWord then
      let _ ← anyWord
    body g

/-! ## Closures -/

def closureParam : Parse Unit := do
  let _ ← outerAttributes g
  let _ ← g.pattern
  if ← punct? ":" then
    let _ ← g.type true

def closure (structs : Bool) : Parse Unit := do
  if ← ahead (Ahead.isWord "for") then introducedParams g (anyBound g)
  for w in ["const", "static", "async", "move"] do
    let _ ← word? w
  punct "|"
  let _ ← list (Ahead.isPunct "|") "," (closureParam g)
  punct "|"
  if ← punct? "->" then
    let _ ← g.type true
    block g
  else
    let _ ← g.expr structs

/-! ## Names, structures, collections -/

def fieldValue : Parse Unit := do
  let _ ← outerAttributes g
  let named ← member
  if !named || (← ahead (Ahead.isPunct ":")) then
    punct ":"
    let _ ← g.expr true

/-- The fields of a structure; the base comes last. -/
def fieldValues : Nat → Parse Unit
  | 0 => failure
  | n + 1 => do
    if ← atEnd then return
    if ← punct? ".." then
      if !(← atEnd) then
        let _ ← g.expr true
      return
    fieldValue g
    if ← atEnd then return
    punct ","
    fieldValues n

def pathExpr (structs : Bool) : Parse ExprShape := do
  let p ← qualifiedPath g (anyBound g) true
  let ts ← rest
  if !p.qualified && Ahead.isPunct "!" ts && !Ahead.isPunct "!=" ts && p.isPlain then
    punct "!"
    let (d, _) ← anyGroup
    return .macroCall (d = .brace)
  if structs && Ahead.isGroup .brace ts then
    group .brace do fieldValues g ((← rest).length + 1)
  return .other

/-- A list in brackets, or a repeated item. -/
def bracketExpr : Parse ExprShape := do
  group .bracket do
    if ← atEnd then return .array []
    let first ← g.expr true
    if ← punct? ";" then
      let _ ← g.expr true
      return .other
    if ← atEnd then return .array [first]
    punct ","
    return .array (first :: (← commaList (g.expr true)))

/-! ## Jumps and bindings -/

/-- `break`; a label with a loop behind it needs parentheses. -/
def breakExpr (structs : Bool) : Parse Unit := do
  word "break"
  let labelled ← lifetime?
  require !(labelled && (← ahead (Ahead.isPunct ":")))
  if ← ahead fun ts => startsExpr ts && (structs || !Ahead.isGroup .brace ts) then
    let _ ← g.expr true

/-- A word that gives a value away, and the value if there is one. -/
def jumpExpr : Parse Unit := do
  let _ ← anyWord
  if ← ahead startsExpr then
    let _ ← g.expr true

def letExpr (structs : Bool) : Parse Unit := do
  word "let"
  let _ ← alternatives g
  punct "="
  let value ← g.unary structs
  let _ ← operators g structs value .compare

/-! ## Atoms -/

/-- An expression without operators and without what trails it. -/
def atom (structs : Bool) : Parse ExprShape := do
  let ts ← rest
  let other (p : Parse Unit) : Parse ExprShape := do
    p
    return .other
  if Ahead.isLiteral ts then literal
  else if startsBlockLike ts then
    blockLike g
    return .block
  else if startsAsync ts then
    other do
      word "async"
      let _ ← word? "move"
      block g
  else if startsClosure ts then other (closure g structs)
  else if startsBuiltin ts then other builtin
  else if startsPathExpr ts then pathExpr g structs
  else if Ahead.isGroup .paren ts then
    other do
      group .paren do
        let _ ← commaList (g.expr true)
  else if Ahead.isWord "break" ts then other (breakExpr g structs)
  else if Ahead.isWord "continue" ts then
    other do
      word "continue"
      let _ ← lifetime?
  else if Ahead.isWordOf ["return", "yield"] ts then other (jumpExpr g)
  else if Ahead.isWord "become" ts then
    other do
      asWritten do
        word "become"
        let _ ← g.expr true
  else if Ahead.isGroup .bracket ts then bracketExpr g
  else if Ahead.isWord "let" ts then other (letExpr g structs)
  else if Ahead.isPunct ".." ts then leadingRange g structs
  else if Ahead.isWord "_" ts then other (word "_")
  else failure

/-! ## Trailers -/

def arguments : Parse Unit := do
  group .paren do
    let _ ← commaList (g.expr true)

/-- The parts of a number that are fields of tuples in a row, and whether a point comes last. -/
def tupleFields? (text : String) : Option (List String × Bool) :=
  let parts := text.splitOn "."
  if parts.length < 2 || !text.toList.head?.any Char.isDigit then none
  else if parts.getLast? = some "" then some (parts.dropLast, true)
  else some (parts, false)

/-- What follows a point, up to a call. -/
def memberTrailer : Parse Unit := do
  if ← word? "await" then return
  if ← member then
    let generic ← ahead (Ahead.isPunct "::")
    if generic then
      punct "::"
      angleArguments g (anyBound g)
    if generic || (← ahead (Ahead.isGroup .paren)) then arguments g

/-- A point and what follows it. -/
def pointTrailer : Parse Unit := do
  punct "."
  match ← rest with
  | .literal text :: _ =>
    match tupleFields? text with
    | some (parts, point) =>
      let some fields := parts.mapM index? | failure
      dropping (take 1)
      emit ((fields.map indexToken).intersperse (.punct '.' false))
      if point then
        emit [.punct '.' false]
        memberTrailer g
    | none => memberTrailer g
  | _ => memberTrailer g

def trailersAfter : Nat → ExprShape → Parse ExprShape
  | 0, _ => failure
  | n + 1, e => do
    let ts ← rest
    let range := e matches .range
    if Ahead.isGroup .paren ts then
      arguments g
      trailersAfter n .other
    else if Ahead.isPunct "." ts && !Ahead.isPunct ".." ts && !range then
      pointTrailer g
      trailersAfter n .other
    else if Ahead.isGroup .bracket ts then
      group .bracket do
        let _ ← g.expr true
      trailersAfter n .other
    else if Ahead.isPunct "?" ts && !range then
      punct "?"
      trailersAfter n .other
    else return e

def trailers (e : ExprShape) : Parse ExprShape := do trailersAfter g ((← rest).length + 1) e

/-! ## Expressions -/

/-- An expression without binary operators. -/
def unaryOf (structs : Bool) : Parse ExprShape := do
  let attributes ← outerAttributes g
  let ts ← rest
  if Ahead.isPunct "&" ts then
    punct "&"
    let address ← ahead fun ts =>
      Ahead.isWord "raw" ts && Ahead.isWordOf ["mut", "const"] (Ahead.skip ts)
    if address then take 2
    else
      let _ ← word? "mut"
    let _ ← g.unary structs
    return .other
  if ["*", "!", "-"].any fun s => Ahead.isPunct s ts then
    take 1
    let _ ← g.unary structs
    return .other
  let e ← trailers g (← atom g structs)
  require !(!attributes.isEmpty && e matches .range)
  return e

/-- An expression; structure literals are allowed or not. -/
def exprOf (structs : Bool) : Parse ExprShape := do
  operators g structs (← unaryOf g structs) .none

/-- An expression that a construct with a block ends, unless a field, a call on it or `?`
follows. -/
def earlyOf : Parse ExprShape := do
  let _ ← outerAttributes g
  if ← ahead startsBlockLike then
    blockLike g
    let trailed ← ahead fun ts =>
      (Ahead.isPunct "." ts && !Ahead.isPunct ".." ts) || Ahead.isPunct "?" ts
    if trailed then operators g true (← trailers g .block) .none else return .block
  else operators g true (← unaryOf g true) .none

end

end EndpointStubs.Syntax
