import EndpointStubs.Syntax.Types

/-!
# Operators between expressions

Binary operators bind with different strength; comparisons do not follow one another, and a
range is no operand on the left.
-/

namespace EndpointStubs.Syntax

open Parse

/-! ## Strength -/

/-- How strongly an operator binds, the weakest first. -/
inductive Strength where
  | none
  | assign
  | range
  | or
  | and
  | condition
  | compare
  | bitOr
  | bitXor
  | bitAnd
  | shift
  | sum
  | product
  | cast
  deriving DecidableEq, Repr

/-- The place of a strength in their order. -/
def Strength.rank (s : Strength) : Nat := s.ctorIdx

/-- The binary operators; one that starts another comes after it. -/
def binaryOperators : List (String × Strength) :=
  [("+=", .assign), ("-=", .assign), ("*=", .assign), ("/=", .assign), ("%=", .assign),
   ("^=", .assign), ("&=", .assign), ("|=", .assign), ("<<=", .assign), (">>=", .assign),
   ("&&", .and), ("||", .or), ("<<", .shift), (">>", .shift), ("==", .compare),
   ("<=", .compare), ("!=", .compare), (">=", .compare), ("+", .sum), ("-", .sum),
   ("*", .product), ("/", .product), ("%", .product), ("^", .bitXor), ("&", .bitAnd),
   ("|", .bitOr), ("<", .compare), (">", .compare)]

def operator? (ts : List TokenTree) : Option (String × Strength) :=
  binaryOperators.find? fun o => Ahead.isPunct o.1 ts

def isAssignment (ts : List TokenTree) : Bool := Ahead.isPunct "=" ts && !Ahead.isPunct "=>" ts

/-- How strongly what is in front binds. -/
def strengthAhead (ts : List TokenTree) : Strength :=
  match operator? ts with
  | some (_, s) => s
  | none =>
    if isAssignment ts then .assign
    else if Ahead.isPunct ".." ts then .range
    else if Ahead.isWord "as" ts then .cast
    else .none

/-! ## Ranges and casts -/

/-- The dots of a range; tells whether it may be without an end. -/
def exprRangeDots : Parse Bool := do
  let ts ← rest
  if Ahead.isPunct "..=" ts then
    punct "..="
    return false
  require (!Ahead.isPunct "..." ts)
  punct ".."
  return true

/-- What cannot start the end of a range. -/
def endsRange (structs : Bool) (ts : List TokenTree) : Bool :=
  ts.isEmpty || (Ahead.isPunct "." ts && !Ahead.isPunct ".." ts) ||
    (!structs && Ahead.isGroup .brace ts) || Ahead.isWord "as" ts ||
    [",", ";", "?", "=>", "=", "+", "/", "%", "^", ">", "<=", "!=", "-=", "*=", "&=", "|=",
     "<<="].any fun s => Ahead.isPunct s ts

/-- What cannot follow a type after `as`. -/
def extendsCast (ts : List TokenTree) : Bool :=
  (Ahead.isPunct "." ts && !Ahead.isPunct ".." ts) || Ahead.isPunct "?" ts ||
    Ahead.isGroup .bracket ts || Ahead.isGroup .paren ts

/-! ## Operands and operators -/

section
variable (g : Grammar) (structs : Bool)

mutual

/-- Operators that bind at least as strongly as `base`, after an expression. -/
def operatorsAfter : Nat → ExprShape → Strength → Parse ExprShape
  | 0, _, _ => failure
  | n + 1, left, base => do
    let ts ← rest
    if left matches .range then return left
    match operator? ts with
    | some (text, s) =>
      if s.rank < base.rank then return left
      require !(s = .compare && left matches .comparison)
      punct text
      let _ ← operand n s
      operatorsAfter n (if s = .compare then .comparison else .other) base
    | none =>
      if Strength.assign.rank ≥ base.rank && isAssignment ts then
        punct "="
        let _ ← operand n .assign
        operatorsAfter n .other base
      else if Strength.range.rank ≥ base.rank && Ahead.isPunct ".." ts then
        rangeTail n
        operatorsAfter n .range base
      else if Ahead.isWord "as" ts then
        word "as"
        let _ ← g.type false
        require !(← ahead extendsCast)
        operatorsAfter n .other base
      else return left

/-- The dots and the end of a range. -/
def rangeTail : Nat → Parse Unit
  | 0 => failure
  | n + 1 => do
    let openEnd ← exprRangeDots
    if openEnd && (← ahead (endsRange structs)) then return
    let _ ← operand n .range

/-- The right operand of an operator with the given strength. -/
def operand : Nat → Strength → Parse ExprShape
  | 0, _ => failure
  | n + 1, s => do
    let first ← g.unary structs
    operandAfter n first s

/-- Stronger operators after an operand. -/
def operandAfter : Nat → ExprShape → Strength → Parse ExprShape
  | 0, _, _ => failure
  | n + 1, e, s => do
    let next := strengthAhead (← rest)
    if next.rank > s.rank || (next = s && s = .assign) then
      let before ← rest
      let e ← operatorsAfter n e next
      if (← rest).length = before.length then return e
      operandAfter n e s
    else return e

end

/-- As many steps as the remaining tokens can need. -/
def enough : Parse Nat := return 4 * (← rest).length + 8

def operators (left : ExprShape) (base : Strength) : Parse ExprShape := do
  operatorsAfter g structs (← enough) left base

def leadingRange : Parse ExprShape := do
  rangeTail g structs (← enough)
  return .range

end

end EndpointStubs.Syntax
