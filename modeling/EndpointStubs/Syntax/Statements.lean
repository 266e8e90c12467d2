import EndpointStubs.Syntax.Expressions

/-!
# Statements

A block holds items, bindings and expressions. An expression needs a semicolon after it unless
it comes last or ends in a block.
-/

namespace EndpointStubs.Syntax

open Parse

/-- What a statement is, as far as the semicolon after it is concerned. -/
inductive Statement where
  /-- Nothing more is needed. -/
  | closed
  /-- A semicolon is needed unless the block ends here. -/
  | open
  deriving DecidableEq

/-! ## What a statement starts with -/

/-- A word that starts an item, with the words behind it that keep it from starting an
expression. -/
def startsItem (ts : List TokenTree) : Bool :=
  let next := Ahead.skip ts
  let after := Ahead.skip next
  let functionWords := ["unsafe", "extern", "fn"]
  Ahead.isWordOf ["pub", "extern", "use", "fn", "mod", "type", "struct", "enum", "trait", "impl",
      "macro"] ts ||
    (Ahead.isWord "crate" ts && !Ahead.isPunct "::" next) ||
    (Ahead.isWord "static" ts && (Ahead.isWord "mut" next || Ahead.isIdent next)) ||
    (Ahead.isWord "const" ts && !(Ahead.isGroup .brace next ||
      Ahead.isWordOf ["static", "move"] next || Ahead.isPunct "|" next ||
      (Ahead.isWord "async" next && !Ahead.isWordOf functionWords after))) ||
    (Ahead.isWord "unsafe" ts && !Ahead.isGroup .brace next) ||
    (Ahead.isWord "async" ts && Ahead.isWordOf functionWords next) ||
    (Ahead.isWord "union" ts && Ahead.isIdent next) ||
    (Ahead.isWord "auto" ts && Ahead.isWord "trait" next) ||
    (Ahead.isWord "default" ts && Ahead.isWordOf ["unsafe", "impl"] next)

/-- What a macro call at the start of a statement is. -/
inductive MacroStart where
  /-- The definition of something by a macro. -/
  | item
  /-- A call with braces that is a statement of its own. -/
  | statement
  deriving DecidableEq

/-- The macro call in front, if that is what starts the statement. -/
def macroStart? (ts : List TokenTree) : Option MacroStart := do
  let (_, c) ← plainPath.run { rest := ts }
  let next := c.rest.drop 1
  let after := next.drop 1
  if !Ahead.isPunct "!" c.rest then none
  else if Ahead.isIdent next || Ahead.isWord "try" next then some .item
  else if Ahead.isGroup .brace next && !(Ahead.isPunct "." after && !Ahead.isPunct ".." after) &&
      !Ahead.isPunct "?" after then some .statement
  else none

section
variable (g : Grammar)

/-- The last token taken is a block. -/
def endsInBrace : Parse Bool := look fun c => Ahead.isGroup .brace c.taken

def letStatement : Parse Unit := do
  word "let"
  let _ ← g.pattern
  if ← punct? ":" then
    let _ ← g.type true
  if ← punct? "=" then
    let _ ← g.expr true
    if !(← endsInBrace) && (← ahead (Ahead.isWord "else")) then
      word "else"
      block g
  punct ";"

/-- An expression with the semicolon after it, if there is one. -/
def exprStatement : Parse Statement := do
  let e ← g.early
  if ← punct? ";" then return .closed
  return match e with
    | .block => .closed
    | .macroCall true => .closed
    | _ => .open

def statement : Parse Statement := do
  let ts ← rest
  let start := macroStart? ts
  if start = some .statement then
    let _ ← plainPath
    punct "!"
    let _ ← anyGroup
    let _ ← punct? ";"
    return .closed
  else if Ahead.isWord "let" ts then
    letStatement g
    return .closed
  else if startsItem ts || start = some .item then
    let _ ← g.item
    return .closed
  else exprStatement g

/-- Statements up to the end of a block. -/
def statementsUpTo : Nat → Parse Unit
  | 0 => failure
  | n + 1 => do
    if ← punct? ";" then statementsUpTo n
    else if ← atEnd then return
    else
      let _ ← outerAttributes g
      let s ← statement g
      require (s = .closed || (← atEnd))
      statementsUpTo n

def statementsOf : Parse Unit := do statementsUpTo g ((← rest).length + 1)

end

end EndpointStubs.Syntax
