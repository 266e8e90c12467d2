import EndpointStubs.Syntax.Patterns

/-!
# Visibility, parameters and signatures
-/

namespace EndpointStubs.Syntax

open Parse

/-! ## Visibility -/

/-- The visibility in front; tells whether there is one. -/
def visibility : Parse Bool := do
  if !(← word? "pub") then return false
  match ← rest with
  | .group .paren inner :: _ =>
    if Ahead.isWordOf ["crate", "self", "super"] inner then
      if inner.length = 1 then take 1
    else if Ahead.isWord "in" inner then
      group .paren do
        word "in"
        let _ ← plainPath
    return true
  | _ => return true

/-! ## Generic parameters -/

section
variable (g : Grammar)

/-- The parameters in angle brackets, if there are any; tells whether the brackets are there. -/
def genericParams : Parse Bool := do
  if ← ahead (Ahead.isPunct "<") then
    angleList false (genericParam g (anyBound g) true)
    return true
  return false

/-- Where the conditions on parameters end. -/
def endsConditions (ts : List TokenTree) : Bool :=
  ts.isEmpty || Ahead.isGroup .brace ts || Ahead.isPunct "," ts || Ahead.isPunct ";" ts ||
    (Ahead.isPunct ":" ts && !Ahead.isPunct "::" ts) || Ahead.isPunct "=" ts

def whereCondition : Parse Unit := do
  let ts ← rest
  if Ahead.isLifetime ts && Ahead.isPunct ":" (Ahead.skip ts) then
    lifetime
    punct ":"
    lifetimeBounds fun ts => endsConditions ts || Ahead.isPunct ":" ts
  else
    if Ahead.isWord "for" ts then introducedParams g (anyBound g)
    let _ ← g.type true
    punct ":"
    boundList (anyBound g) endsConditions

/-- The conditions on parameters, if there are any; tells whether their word is there, which is
dropped without conditions. -/
def whereClause : Parse Bool := do
  let (found, mark) ← capture (word? "where")
  if found then
    require !(← ahead startsParams)
    let (_, ts) ← capture (chain endsConditions "," (whereCondition g))
    if !ts.isEmpty then emit (mark ++ ts)
  return found

/-- Bounds after a colon, if it is there; tells whether it is. -/
def optionalBounds (stop : List TokenTree → Bool) : Parse Bool := do
  let found ← ahead (Ahead.isPunct ":")
  afterColon do
    let _ ← list stop "+" (anyBound g)
  return found

/-! ## Signatures -/

/-- The words before a function are in their order; more may follow. -/
def signatureStart : Parse Unit := do
  for w in ["const", "async", "unsafe"] do
    let _ ← word? w
  abi?

/-- A function starts here. -/
def startsSignature : Parse Bool := do
  let answer ← peek do
    signatureStart
    word "fn"
  return answer.isSome

/-- The first parameter of a method starts here, and no path. -/
def startsReceiver (ts : List TokenTree) : Bool :=
  let ts := if Ahead.isPunct "&" ts then
      let ts := Ahead.skip ts
      if Ahead.isLifetime ts then Ahead.skip ts else ts
    else ts
  let ts := if Ahead.isWord "mut" ts then Ahead.skip ts else ts
  Ahead.isWord "self" ts && !Ahead.isPunct "::" (Ahead.skip ts)

/-- The first parameter of a method. -/
def receiver : Parse Unit := do
  let byRef ← punct? "&"
  if byRef then
    let _ ← lifetime?
  let _ ← word? "mut"
  word "self"
  if !byRef && (← punct? ":") then
    let _ ← g.type true

/-- What a parameter turned out to be. -/
inductive ParamKind where
  | receiver
  | typed
  | variadic
  deriving DecidableEq

/-- A parameter of a function, after its attributes; a type alone has the name `_`. -/
def functionParam : Parse ParamKind := do
  if ← punct? "..." then return .variadic
  if ← ahead startsReceiver then
    receiver g
    return .receiver
  if ← ahead fun ts => Ahead.isIdent ts && Ahead.isPunct "<" (Ahead.skip ts) then
    emit [.word (.of "_"), .punct ':' false]
    let _ ← g.type true
    return .typed
  let _ ← g.pattern
  punct ":"
  if ← punct? "..." then return .variadic
  let _ ← g.type true
  return .typed

/-- The parameters of a function; a receiver can only come first. -/
def functionParams : Nat → Bool → Parse Unit
  | 0, _ => failure
  | n + 1, first => do
    if ← atEnd then return
    let _ ← outerAttributes g
    match ← functionParam g with
    | .variadic => if !(← atEnd) then punct ","
    | kind =>
      require (kind ≠ .receiver || first)
      if ← atEnd then return
      punct ","
      functionParams n false

/-- The name of a function and the tokens of its return type, up to the conditions. -/
def signature : Parse (Word × Option (List TokenTree)) := do
  signatureStart
  word "fn"
  let name ← ident
  let _ ← genericParams g
  group .paren do functionParams g ((← rest).length + 1) true
  let returns ← do
    if ← punct? "->" then
      let (_, ts) ← noting (g.type true)
      pure (some ts)
    else pure none
  let _ ← whereClause g
  return (name, returns)

end

end EndpointStubs.Syntax
