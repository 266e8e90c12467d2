import EndpointStubs.Template.Reader.Basic

/-!
# Reading expressions

Expressions are read by precedence, from the conditional down to single operands: conditions,
`or`, `and`, `not`, comparisons, sums, concatenations, products, powers, signs. Attributes,
subscripts and calls follow an operand closely, filters and tests after them.
-/

namespace EndpointStubs.Template.Reader

/-- The readers for expressions inside an expression. -/
structure Inner where
  /-- An expression. -/
  full : Reader Expr
  /-- An expression without a condition at its end. -/
  plain : Reader Expr
  /-- Bounds the length of lists. -/
  bound : Nat

namespace Inner

variable (x : Inner)

/-! ## Operands -/

/-- Words that stand for values. -/
def constant? (s : String) : Option Expr :=
  if s = "true" || s = "True" then some (.bool true)
  else if s = "false" || s = "False" then some (.bool false)
  else if s = "none" || s = "None" then some .none
  else none

/-- An expression in parentheses, or a tuple, which is a list. -/
def parenthesized : Reader Expr := do
  if ← skipOp ")" then return .list []
  let a ← x.full
  if ← skipOp "," then
    return .list (a :: (← commaList x.full ")" x.bound))
  expectOp ")"
  return a

def entry : Reader (Expr × Expr) := do
  let key ← x.full
  expectOp ":"
  return (key, ← x.full)

/-- A literal, a name or brackets. -/
def primary : Reader Expr := guarded do
  match ← peek with
  | some (.name s) =>
    advance
    return (constant? s).getD (.var s)
  | some (.string s) =>
    advance
    return .string s
  | some (.int k) =>
    advance
    return .int k
  | some (.float y) =>
    advance
    return .float y
  | some (.op s) =>
    advance
    if s = "(" then parenthesized x
    else if s = "[" then return .list (← commaList x.full "]" x.bound)
    else if s = "\x7b" then return .map (← commaList (entry x) "\x7d" x.bound)
    else failure
  | _ => failure

/-- An operand with minus signs in front. -/
def signed : Nat → Reader Expr
  | 0 => failure
  | k + 1 => do
    if ← skipOp "-" then return .unary .negate (← signed k)
    primary x

/-! ## Arguments -/

def argument : Reader Arg := do
  if ← skipOp "**" then return .spreadNamed (← x.full)
  if ← skipOp "*" then return .spread (← x.full)
  let a ← x.full
  match a with
  | .var name => if ← skipOp "=" then return .named name (← x.plain) else return .positional a
  | _ => return .positional a

/-- No positional argument comes after a named one. -/
def wellOrdered : List Arg → Bool
  | [] => true
  | .named .. :: rest | .spreadNamed .. :: rest =>
    rest.all (fun a => match a with | .positional _ => false | _ => true)
  | _ :: rest => wellOrdered rest

/-- Arguments after an opening parenthesis. -/
def arguments : Reader (List Arg) := do
  let args ← commaList (argument x) ")" x.bound
  if wellOrdered args then return args else failure

def someArguments : Reader (List Arg) := do
  if ← skipOp "(" then arguments x else return []

/-- A filter: its name and arguments. -/
def filterCall : Reader FilterCall := do
  let name ← dottedName x.bound
  return (name, ← someArguments x)

/-! ## After an operand -/

/-- An index or a slice, after an opening bracket. -/
def subscript (a : Expr) : Reader Expr := do
  let start? ← if ← atOp ":" then pure none else some <$> x.full
  if ← skipOp ":" then
    let stop? ← if (← atOp ":") || (← atOp "]") then pure none else some <$> x.full
    let step? ← if ← skipOp ":" then
        (if ← atOp "]" then pure none else some <$> x.full)
      else pure none
    expectOp "]"
    return .slice a start? stop? step?
  else
    expectOp "]"
    match start? with
    | some key => return .item a key
    | none => failure

/-- An attribute or a position, after a point. -/
def member (a : Expr) : Reader Expr := do
  match ← peek with
  | some (.int k) =>
    advance
    return .item a (.int k)
  | _ => return .attribute a (← takeName)

/-- Attributes, subscripts and calls after an operand. -/
def postfixes : Nat → Expr → Reader Expr
  | 0, _ => failure
  | k + 1, a => do
    if ← skipOp "." then postfixes k (← member a)
    else if ← skipOp "[" then postfixes k (← subscript x a)
    else if ← skipOp "(" then postfixes k (.call a (← arguments x))
    else return a

/-- The only argument of a test may stand without parentheses. -/
def startsArgument : Option Token → Bool
  | some (.name s) => (["and", "or", "else", "is"].contains s).not
  | some (.string _) | some (.int _) | some (.float _) => true
  | some (.op s) => ["+", "-", "[", "\x7b"].contains s
  | _ => false

def testArguments : Reader (List Arg) := do
  if ← skipOp "(" then arguments x
  else if startsArgument (← peek) then
    let a ← signed x x.bound
    return [.positional (← postfixes x x.bound a)]
  else return []

/-- Filters and tests after an operand. -/
def filters : Nat → Expr → Reader Expr
  | 0, _ => failure
  | k + 1, a => do
    if ← skipOp "|" then
      let (name, args) ← filterCall x
      filters k (.filter name a args)
    else if ← skipName "is" then
      let negated ← skipName "not"
      let name ← dottedName x.bound
      let args ← testArguments x
      let t := Expr.test name a args
      filters k (if negated then .unary .not t else t)
    else return a

def operand : Reader Expr := do
  let a ← signed x x.bound
  let a ← postfixes x x.bound a
  filters x x.bound a

/-! ## Operators -/

/-- Operators of one precedence, from left to right. -/
def chain (ops : List (String × (Expr → Expr → Expr))) (operand : Reader Expr) :
    Nat → Expr → Reader Expr
  | 0, _ => failure
  | k + 1, a => do
    let op? := match ← peek with
      | some (.op s) | some (.name s) => ops.lookup s
      | _ => none
    match op? with
    | some op =>
      advance
      let b ← operand
      chain ops operand k (op a b)
    | none => return a

/-- Operands of one precedence. -/
def level (ops : List (String × (Expr → Expr → Expr))) (operand : Reader Expr) : Reader Expr := do
  let a ← operand
  chain ops operand x.bound a

/-- Sums, concatenations, products and powers. -/
def arithmetic : Reader Expr :=
  let power := level x [("**", .binary .pow)] (operand x)
  let product := level x
    [("*", .binary .mul), ("/", .binary .div), ("//", .binary .floorDiv), ("%", .binary .rem)] power
  let joined := level x [("~", .binary .concat)] product
  level x [("+", .binary .add), ("-", .binary .sub)] joined

/-- The operator of a comparison, if one is next. -/
def compareOp : Reader (Option CompareOp) := do
  if ← skipName "not" then
    expectName "in"
    return some .notContained
  let op? := match ← peek with
    | some (.op s) | some (.name s) =>
      [("==", CompareOp.eq), ("!=", .ne), ("<", .lt), ("<=", .le), (">", .gt), (">=", .ge),
        ("in", .contained)].lookup s
    | _ => none
  if op?.isSome then advance
  return op?

/-- Operators and further operands of a comparison. -/
def compared : Nat → Reader (List (CompareOp × Expr))
  | 0 => failure
  | k + 1 => do
    match ← compareOp with
    | none => return []
    | some op =>
      let b ← arithmetic x
      return (op, b) :: (← compared k)

def comparison : Reader Expr := do
  let a ← arithmetic x
  match ← compared x x.bound with
  | [] => return a
  | rest => return .compare a rest

/-- A comparison with negations in front. -/
def negation : Nat → Reader Expr
  | 0 => failure
  | k + 1 => do
    if ← skipName "not" then return .unary .not (← negation k)
    comparison x

/-- An expression without a condition at its end. -/
def disjunction : Reader Expr :=
  level x [("or", .or)] (level x [("and", .and)] (negation x x.bound))

/-- An expression, with conditions after it and after each alternative. -/
def conditional : Nat → Reader Expr
  | 0 => failure
  | k + 1 => do
    let a ← disjunction x
    let rec conditions : Nat → Expr → Reader Expr
      | 0, _ => failure
      | j + 1, a => do
        if ← skipName "if" then
          let test ← disjunction x
          if ← skipName "else" then
            let b ← conditional k
            conditions j (.cond test a (some b))
          else conditions j (.cond test a none)
        else return a
    conditions (x.bound + 1) a

end Inner

/-- The readers for expressions that nest at most `depth` deep and have at most `bound` parts. -/
def inner (bound : Nat) : Nat → Inner
  | 0 => ⟨failure, failure, bound⟩
  | depth + 1 => {
      full := fun p => guarded ((inner bound depth).conditional (bound + 1)) p
      plain := fun p => (inner bound depth).disjunction p
      bound }

end EndpointStubs.Template.Reader
