import EndpointStubs.Syntax.Types

/-!
# Patterns
-/

namespace EndpointStubs.Syntax

open Parse

/-! ## Members and labels -/

/-- The digits of a whole number without a suffix, with its base. -/
def indexDigits (text : String) : Nat × List Char :=
  match text.toList with
  | '0' :: 'x' :: cs => (16, cs)
  | '0' :: 'o' :: cs => (8, cs)
  | '0' :: 'b' :: cs => (2, cs)
  | cs => (10, cs)

/-- The number of a field of a tuple that a text writes. -/
def index? (text : String) : Option Nat := do
  let (base, cs) := indexDigits text
  let digits ← (cs.filter (· ≠ '_')).mapM Text.Quoted.hexDigit?
  let n := digits.foldl (fun n d => n * base + d) 0
  if !digits.isEmpty && digits.all (· < base) && n < Nat.pow 2 32 then some n else none

/-- The token of a field's number, in decimal digits. -/
def indexToken (n : Nat) : TokenTree := .literal (toString n)

/-- A name or a number of a field; tells whether it is a name. -/
def member : Parse Bool := do
  match ← rest with
  | .literal text :: _ =>
    let some n := index? text | failure
    dropping (take 1)
    emit [indexToken n]
    return false
  | _ =>
    let _ ← ident
    return true

section
variable (g : Grammar)

/-! ## Ranges -/

/-- The dots of a range, with three of them allowed or not; tells whether the end is part
of it. Three dots mean the same as two and a sign of equality. -/
def rangeDots (three : Bool) : Parse Bool := do
  let ts ← rest
  if Ahead.isPunct "..=" ts then
    punct "..="
    return true
  if Ahead.isPunct "..." ts then
    require three
    dropping (punct "...")
    emit [.punct '.' true, .punct '.' true, .punct '=' false]
    return true
  punct ".."
  return false

/-- One end of a range of patterns, if it is there. -/
def rangeBound : Parse Bool := do
  let ts ← rest
  if ts.isEmpty || ["|", "=", ",", ";"].any (fun s => Ahead.isPunct s ts)
      || (Ahead.isPunct ":" ts && !Ahead.isPunct "::" ts) || Ahead.isWord "if" ts then
    return false
  if Ahead.isLiteral ts then
    let _ ← literal
  else if startsPath ts then
    let _ ← qualifiedPath g (anyBound g) true
  else
    word "const"
    group .brace do
      let _ ← innerAttributes g
      g.statements
  return true

/-- What follows the start of a range. -/
def rangeEnd : Parse PatternShape := do
  let closed ← rangeDots true
  let bounded ← rangeBound g
  require (!closed || bounded)
  return if bounded then .other else .openRange

/-! ## Alternatives -/

/-- One more alternative follows. -/
def startsAlternative (ts : List TokenTree) : Bool :=
  Ahead.isPunct "|" ts && !Ahead.isPunct "||" ts && !Ahead.isPunct "|=" ts

/-- Further alternatives; tells whether there are any. -/
def moreAlternatives : Nat → Parse Bool
  | 0 => failure
  | n + 1 => do
    if ← ahead startsAlternative then
      punct "|"
      let _ ← g.pattern
      let _ ← moreAlternatives n
      return true
    return false

/-- A pattern that may have alternatives. -/
def alternatives : Parse PatternShape := do
  let leading ← punct? "|"
  let first ← g.pattern
  let more ← moreAlternatives g ((← rest).length + 1)
  return if leading || more then .other else first

/-! ## Patterns -/

def fieldPattern : Parse Unit := do
  let boxed ← word? "box"
  let byRef ← word? "ref"
  let mutable ← word? "mut"
  if boxed || byRef || mutable then
    let _ ← ident
  else
    let named ← member
    if !named || (← ahead (Ahead.isPunct ":")) then
      punct ":"
      let _ ← alternatives g

/-- The fields of a structure pattern; `..` comes last. -/
def fieldPatterns : Nat → Parse Unit
  | 0 => failure
  | n + 1 => do
    if ← atEnd then return
    let _ ← outerAttributes g
    if ← punct? ".." then return
    fieldPattern g
    if ← atEnd then return
    punct ","
    fieldPatterns n

def pathPattern : Parse PatternShape := do
  let p ← qualifiedPath g (anyBound g) true
  let ts ← rest
  if !p.qualified && Ahead.isPunct "!" ts && !Ahead.isPunct "!=" ts && p.isPlain then
    punct "!"
    let _ ← anyGroup
    return .other
  if Ahead.isGroup .brace ts then
    group .brace do fieldPatterns g ((← rest).length + 1)
    return .other
  if Ahead.isGroup .paren ts then
    group .paren do
      let _ ← commaList (alternatives g)
    return .other
  if Ahead.isPunct ".." ts then rangeEnd g
  else return .other

/-- A pattern that starts with a literal or a constant block. -/
def literalPattern : Parse PatternShape := do
  require (← rangeBound g)
  if ← ahead (Ahead.isPunct "..") then rangeEnd g
  else return .other

/-- A name to bind, perhaps with a pattern of its own. -/
def namePattern : Parse PatternShape := do
  let _ ← word? "ref"
  let _ ← word? "mut"
  if ← ahead (Ahead.isWord "self") then word "self"
  else
    let _ ← ident
  if ← punct? "@" then
    let _ ← g.pattern
  return .other

/-- `..` alone, or a range without a start. -/
def dotsPattern : Parse PatternShape := do
  let closed ← rangeDots false
  if ← rangeBound g then return .openRange
  require (!closed)
  return .rest

def slicePattern : Parse Unit := do
  let shape ← alternatives g
  require (shape ≠ .openRange)

/-- The name in front is the start of a path. -/
def startsPathPattern (ts : List TokenTree) : Bool :=
  let next := Ahead.skip ts
  (Ahead.isIdent ts && (Ahead.isPunct "::" next || Ahead.isPunct "!" next ||
      Ahead.isGroup .brace next || Ahead.isGroup .paren next || Ahead.isPunct ".." next)) ||
    (Ahead.isWord "self" ts && Ahead.isPunct "::" next) ||
    Ahead.isPunct "::" ts || Ahead.isPunct "<" ts || Ahead.isWordOf ["Self", "super", "crate"] ts

/-- A pattern without alternatives. -/
def patternOf : Parse PatternShape := do
  let ts ← rest
  if startsPathPattern ts then pathPattern g
  else if Ahead.isWord "_" ts then
    word "_"
    return .other
  else if Ahead.isWord "box" ts then
    asWritten do
      word "box"
      let _ ← g.pattern
    return .other
  else if Ahead.isPunct "-" ts || Ahead.isLiteral ts || Ahead.isWord "const" ts then
    literalPattern g
  else if Ahead.isWordOf ["ref", "mut", "self"] ts || Ahead.isIdent ts then namePattern g
  else if Ahead.isPunct "&" ts then
    punct "&"
    let _ ← word? "mut"
    let _ ← g.pattern
    return .other
  else if Ahead.isGroup .paren ts then
    group .paren do
      let _ ← commaList (alternatives g)
    return .other
  else if Ahead.isGroup .bracket ts then
    group .bracket do
      let _ ← commaList (slicePattern g)
    return .other
  else if Ahead.isPunct ".." ts && !Ahead.isPunct "..." ts then dotsPattern g
  else failure

end

end EndpointStubs.Syntax
