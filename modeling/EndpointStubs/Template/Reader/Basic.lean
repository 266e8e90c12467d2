import EndpointStubs.Template.Syntax
import EndpointStubs.Template.Token

/-!
# Readers over tokens

A reader takes tokens from the front and makes something of them, or fails. It also counts how
deep expressions and statements nest, which is limited.

    (guarded r).run ⟨ts, maxNesting⟩ = none
-/

namespace EndpointStubs.Template

/-- The tokens that are left, and how deep reading stands. -/
structure Place where
  tokens : List Token
  nesting : Nat := 0

/-- A parser over the tokens that are left. -/
abbrev Reader := StateT Place Option

namespace Reader

/-- The deepest nesting of expressions, operands and statements. -/
def maxNesting : Nat := 150

/-- Reads one level deeper. -/
def guarded {α : Type} (r : Reader α) : Reader α := do
  if (← get).nesting ≥ maxNesting then failure
  modify fun p => { p with nesting := p.nesting + 1 }
  let a ← r
  modify fun p => { p with nesting := p.nesting - 1 }
  return a

/-! ## Tokens -/

def peek : Reader (Option Token) := return (← get).tokens.head?

def advance : Reader Unit := modify fun p => { p with tokens := p.tokens.tail }

/-- The next token is this operator. -/
def atOp (s : String) : Reader Bool := do
  match ← peek with
  | some (.op t) => return t = s
  | _ => return false

/-- The next token is this word. -/
def atName (s : String) : Reader Bool := do
  match ← peek with
  | some (.name t) => return t = s
  | _ => return false

def skipOp (s : String) : Reader Bool := do
  if ← atOp s then
    advance
    return true
  return false

def skipName (s : String) : Reader Bool := do
  if ← atName s then
    advance
    return true
  return false

def expectOp (s : String) : Reader Unit := do
  if !(← skipOp s) then failure

def expectName (s : String) : Reader Unit := do
  if !(← skipName s) then failure

def takeName : Reader String := do
  match ← peek with
  | some (.name s) =>
    advance
    return s
  | _ => failure

/-- Words with points between them. -/
def dottedName : Nat → Reader String
  | 0 => failure
  | n + 1 => do
    let name ← takeName
    if ← skipOp "." then return name ++ "." ++ (← dottedName n)
    return name

def atClose : Reader Bool := do
  match ← peek with
  | some .closeTag => return true
  | _ => return false

def expectClose : Reader Unit := do
  if ← atClose then advance else failure

/-- Items with commas between, up to a closing operator; a comma may stand at the end. -/
def commaList {α : Type} (item : Reader α) (close : String) : Nat → Reader (List α)
  | 0 => failure
  | n + 1 => do
    if ← skipOp close then return []
    let a ← item
    if ← skipOp close then return [a]
    expectOp ","
    return a :: (← commaList item close n)

/-! ## Assigned names -/

/-- Names that cannot be assigned. -/
def reserved : List String :=
  ["true", "True", "false", "False", "none", "None", "loop", "self"]

/-- A name that can be assigned. -/
def assignable : Reader String := do
  let name ← takeName
  if reserved.contains name then failure else return name

/-- Names with commas between; parentheses make a tuple, and so does a comma. -/
def assignment (n : Nat) : Nat → Reader Target
  | 0 => failure
  | depth + 1 => do
    let one : Reader Target := do
      if ← skipOp "(" then
        let t ← assignment n depth
        expectOp ")"
        return t
      return .name (← assignable)
    let atEnd : Reader Bool := do
      return (← atOp ")") || (← atName "in") || (← atClose)
    let rec rest : Nat → List Target → Reader Target
      | 0, _ => failure
      | k + 1, ts => do
        if ← skipOp "," then
          if ← atEnd then return .tuple ts
          let t ← one
          rest k (ts ++ [t])
        else
          match ts with
          | [t] => return t
          | ts => return .tuple ts
    if ← atEnd then return .tuple []
    let t ← one
    rest (n + 1) [t]

end Reader

end EndpointStubs.Template
