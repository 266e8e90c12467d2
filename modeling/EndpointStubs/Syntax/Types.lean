import EndpointStubs.Syntax.AngleList
import EndpointStubs.Syntax.Attributes

/-!
# Types, paths and bounds
-/

namespace EndpointStubs.Syntax

open Parse

section
variable (g : Grammar)

/-! ## Generic arguments -/

def block : Parse Unit := group .brace g.statements

/-- A constant argument: a literal, a name or a block. -/
def constArgument : Parse Unit := do
  let ts ← rest
  if Ahead.isLiteral ts then
    let _ ← literal
  else if Ahead.isIdent ts then
    let _ ← ident
  else
    group .brace do
      let _ ← innerAttributes g
      g.statements

/-- A list of bounds, each read by the given parser. -/
def boundList (bound : Parse Unit) (stop : List TokenTree → Bool) : Parse Unit := do
  let _ ← chain stop "+" bound

/-- One argument between angle brackets. -/
def genericArgument (bound : Parse Unit) : Parse EntryKind := do
  let ts ← rest
  if Ahead.isLifetime ts && !Ahead.isPunct "+" (Ahead.skip ts) then
    lifetime
    return .lifetime
  if Ahead.isLiteral ts || Ahead.isGroup .brace ts then
    constArgument g
    return .other
  match ← g.type true with
  | .path ⟨false, false, [(_, args)]⟩ =>
    if args ≠ .parenthesized then
      if ← punct? "=" then
        let ts ← rest
        if Ahead.isLiteral ts || Ahead.isGroup .brace ts then constArgument g
        else let _ ← g.type true
      else if ← punct? ":" then
        boundList bound fun ts => Ahead.isPunct "," ts || Ahead.isPunct ">" ts
    return .other
  | _ => return .other

def angleArguments (bound : Parse Unit) : Parse Unit := angleList true (genericArgument g bound)

/-! ## Paths -/

/-- A segment of a path; in expressions, arguments need `::` before them. -/
def pathSegment (bound : Parse Unit) (inExpr : Bool) : Parse (Word × SegmentArgs) := do
  if ← ahead (Ahead.isWordOf ["super", "self", "crate", "try"]) then
    return (← anyWord, .none)
  let name ← if ← ahead (Ahead.isWord "Self") then anyWord else ident
  let ts ← rest
  if (!inExpr && Ahead.isPunct "<" ts && !Ahead.isPunct "<=" ts && !Ahead.isPunct "<<=" ts)
      || (Ahead.isPunct "::" ts && Ahead.isPunct "<" (ts.drop 2)) then
    let _ ← punct? "::"
    angleArguments g bound
    return (name, .angle)
  return (name, .none)

def pathRest (bound : Parse Unit) (inExpr : Bool) : Nat → Parse (List (Word × SegmentArgs))
  | 0 => failure
  | n + 1 => do
    let ts ← rest
    if Ahead.isPunct "::" ts && !Ahead.isGroup .paren (ts.drop 2) then
      punct "::"
      let s ← pathSegment g bound inExpr
      return s :: (← pathRest bound inExpr n)
    return []

/-- A path that starts with a name or `::`. -/
def path (bound : Parse Unit) (inExpr : Bool) : Parse PathShape := do
  let rooted ← punct? "::"
  let s ← pathSegment g bound inExpr
  let others ← pathRest g bound inExpr ((← rest).length + 1)
  return ⟨false, rooted, s :: others⟩

/-- The segments after a type in angle brackets. -/
def qualifiedRest (bound : Parse Unit) (inExpr : Bool) :
    Nat → Parse (List (Word × SegmentArgs))
  | 0 => failure
  | n + 1 => do
    let s ← pathSegment g bound inExpr
    if ← punct? "::" then return s :: (← qualifiedRest bound inExpr n)
    return [s]

def qualifiedPath (bound : Parse Unit) (inExpr : Bool) : Parse PathShape := do
  if ← punct? "<" then
    let _ ← g.type true
    if ← word? "as" then
      let _ ← path g bound false
    punct ">"
    punct "::"
    let segments ← qualifiedRest g bound inExpr ((← rest).length + 1)
    return ⟨true, false, segments⟩
  path g bound inExpr

/-! ## Generic parameters -/

/-- Bounds of a lifetime up to a stop. -/
def lifetimeBounds (stop : List TokenTree → Bool) : Parse Unit := do
  let _ ← chain stop "+" lifetime

def genericParam (bound : Parse Unit) (blankAllowed : Bool) : Parse EntryKind := do
  let _ ← outerAttributes g
  let ts ← rest
  let stop (ts : List TokenTree) : Bool := Ahead.isPunct "," ts || Ahead.isPunct ">" ts
  if Ahead.isLifetime ts then
    lifetime
    afterColon (lifetimeBounds stop)
    return .lifetime
  if Ahead.isIdent ts then
    let _ ← ident
    afterColon (boundList bound fun ts => stop ts || Ahead.isPunct "=" ts)
    if ← punct? "=" then
      let _ ← g.type true
  else if Ahead.isWord "const" ts then
    word "const"
    let _ ← ident
    punct ":"
    let _ ← g.type true
    if ← punct? "=" then constArgument g
  else
    require blankAllowed
    word "_"
  return .other

/-- Parameters that a bound or a closure introduces; they keep their order. -/
def introducedParams (bound : Parse Unit) : Parse Unit := do
  word "for"
  punct "<"
  let _ ← list (Ahead.isPunct ">") "," (genericParam g bound false)
  punct ">"

/-! ## Bounds -/

inductive BoundKind where
  | trait
  | lifetime
  | capture
  /-- A trait with constant conditions. -/
  | constant
  deriving DecidableEq

/-- Types in parentheses, and a result. -/
def parenthesizedArguments : Parse Unit := do
  group .paren do
    let _ ← commaList (g.type true)
  if ← punct? "->" then
    let _ ← g.type false

/-- A trait, perhaps with lifetimes, modifiers and arguments in parentheses; tells whether
it has constant conditions. -/
def traitBound (bound : Parse Unit) (constAllowed : Bool) : Parse BoundKind := do
  let introduced ← ahead (Ahead.isWord "for")
  if introduced then introducedParams g bound
  let ts ← rest
  let conditional := Ahead.isGroup .bracket ts
  let constant := Ahead.isWord "const" ts
  if conditional then group .bracket (word "const")
  else if constant then word "const"
  if conditional || constant then require constAllowed
  let maybe ← punct? "?"
  let introducedLater ← if !introduced && maybe then ahead (Ahead.isWord "for") else pure false
  if introducedLater then introducedParams g bound
  let p ← path g bound false
  let ts ← rest
  let bare := p.segments.getLast?.all fun s => s.2 = .none
  if bare && (Ahead.isGroup .paren ts || (Ahead.isPunct "::" ts && Ahead.isGroup .paren (ts.drop 2)))
  then
    let _ ← capture (punct? "::")
    parenthesizedArguments g
  require (!((introduced || introducedLater) && maybe))
  return if conditional || constant then .constant else .trait

/-- Parameters that a type captures. -/
def captured : Parse Unit := do
  word "use"
  angleList true do
    let ts ← rest
    if Ahead.isLifetime ts then
      lifetime
      return .lifetime
    require (Ahead.isIdent ts || Ahead.isWord "Self" ts)
    let _ ← anyWord
    return .other

def singleBound (bound : Parse Unit) (captureAllowed constAllowed : Bool) : Parse BoundKind := do
  let ts ← rest
  if Ahead.isLifetime ts then
    lifetime
    return .lifetime
  if Ahead.isWord "use" ts then
    captured
    require captureAllowed
    return .capture
  asWrittenIf do
    let kind ← if Ahead.isGroup .paren ts then group .paren (traitBound g bound constAllowed)
      else traitBound g bound constAllowed
    return (kind, kind = .constant)

/-- A bound of a parameter or an associated type; `n` bounds how deep bounds nest. -/
def paramBound : Nat → Parse Unit
  | 0 => failure
  | n + 1 => do
    let _ ← singleBound g (paramBound n) false true

/-- A bound whose own depth the remaining tokens bound. -/
def anyBound : Parse Unit := do paramBound g ((← rest).length + 1)

/-- A bound without constant conditions. -/
def plainBound : Parse Unit := do
  let _ ← singleBound g (anyBound g) false false

/-- May start one more bound after a `+`. -/
def startsBound (constAllowed : Bool) (ts : List TokenTree) : Bool :=
  Ahead.isAnyWord ts || Ahead.isPunct "::" ts || Ahead.isPunct "?" ts || Ahead.isLifetime ts ||
    Ahead.isGroup .paren ts || (constAllowed && Ahead.isGroup .bracket ts)

/-- Bounds with `+` between, as far as that is allowed; tells their kinds and whether a `+`
comes last. -/
def bounds (plus captureAllowed constAllowed : Bool) : Nat → Parse (List BoundKind × Bool)
  | 0 => failure
  | n + 1 => do
    let kind ← singleBound g (anyBound g) captureAllowed constAllowed
    if plus && (← ahead (Ahead.isPunct "+")) then
      punct "+"
      if ← ahead (startsBound constAllowed) then
        let (kinds, trailing) ← bounds plus captureAllowed constAllowed n
        return (kind :: kinds, trailing)
      return ([kind], true)
    return ([kind], false)

/-- Bounds among which there is a trait. -/
def traitBounds (plus captureAllowed constAllowed : Bool) : Parse (List BoundKind × Bool) := do
  let (kinds, trailing) ← bounds g plus captureAllowed constAllowed ((← rest).length + 1)
  require (kinds.any fun k => k = .trait || k = .constant)
  return (kinds, trailing)

def moreBounds : Nat → Parse Nat
  | 0 => failure
  | n + 1 => do
    if ← punct? "+" then
      plainBound g
      return (← moreBounds n) + 1
    return 0

/-- Bounds after a first one; a `+` may come last. -/
def moreBoundsLoosely : Nat → Parse (Nat × Bool)
  | 0 => failure
  | n + 1 => do
    if ← punct? "+" then
      if ← ahead (startsBound false) then
        plainBound g
        let (count, trailing) ← moreBoundsLoosely n
        return (count + 1, trailing)
      return (0, true)
    return (0, false)

/-! ## Function types -/

/-- An interface name after `extern`. -/
def abi : Parse Unit := do
  word "extern"
  if ← ahead Ahead.isText then
    let _ ← literal

def abi? : Parse Unit := do
  if ← ahead (Ahead.isWord "extern") then abi

/-- A name or `_` with a colon, but no path. -/
def startsNamed (ts : List TokenTree) : Bool :=
  Ahead.isPunct ":" (Ahead.skip ts) && !Ahead.isPunct "::" (Ahead.skip ts)

/-- A parameter of a function type, after its attributes; a changeable `self` is kept as it
stands. -/
def functionTypeParam (first : Bool) : Parse Unit := asWrittenIf do
  let ts ← rest
  let selfNext (ts : List TokenTree) : Bool :=
    first && Ahead.isWord "mut" ts && Ahead.isWord "self" (Ahead.skip ts)
  let mutSelf := selfNext ts
  if mutSelf then word "mut"
  let ts ← rest
  let named := (Ahead.isIdent ts || Ahead.isWord "_" ts || (first && Ahead.isWord "self" ts)) &&
    startsNamed ts
  if named then
    let _ ← anyWord
    punct ":"
  if first && (← ahead selfNext) && !(named && Ahead.isWord "self" ts) then
    word "mut"
    word "self"
    return ((), true)
  if mutSelf && !named then word "self"
  else
    let _ ← g.type true
  return ((), mutSelf)

/-- A mark for further parameters. -/
def isVariadic (ts : List TokenTree) : Bool :=
  Ahead.isPunct "..." ts ||
    ((Ahead.isIdent ts || Ahead.isWord "_" ts) && Ahead.isPunct ":" (Ahead.skip ts) &&
      Ahead.isPunct "..." (Ahead.skip (Ahead.skip ts)))

def variadic : Parse Unit := do
  if !(← ahead (Ahead.isPunct "...")) then
    let _ ← anyWord
    punct ":"
  punct "..."
  let _ ← punct? ","

def functionTypeParams : Nat → Bool → Parse Unit
  | 0, _ => failure
  | n + 1, first => do
    if ← atEnd then return
    let _ ← outerAttributes g
    if ← ahead isVariadic then variadic
    else
      functionTypeParam g first
      if ← atEnd then return
      punct ","
      functionTypeParams n false

def resultType (plus : Bool) : Parse Unit := do
  if ← punct? "->" then
    let _ ← g.type plus

def functionType : Parse Unit := do
  let _ ← word? "unsafe"
  abi?
  word "fn"
  group .paren do functionTypeParams g ((← rest).length + 1) true
  resultType g false

/-! ## Types -/

/-- The rest of a type in parentheses that starts with `?`. -/
def relaxedBounds : Parse TypeShape := do
  group .paren do
    let _ ← traitBound g (anyBound g) false
  let more ← moreBounds g ((← rest).length + 1)
  return .bounds false (more + 1) false true

/-- What stands in parentheses, and whether it can be a bound. -/
inductive InParens where
  | tuple
  | lifetimes
  | single (t : TypeShape)

/-- Inside the parentheses of a type. -/
def inParens : Parse InParens := do
  if ← atEnd then return .tuple
  if ← ahead Ahead.isLifetime then
    let _ ← traitBounds g true false false
    return .lifetimes
  let t ← g.type true
  if ← ahead (Ahead.isPunct ",") then
    punct ","
    let _ ← commaList (g.type true)
    return .tuple
  return .single t

/-- The type can be the first of several bounds once it stands in parentheses. -/
def canBeBound : TypeShape → Bool
  | .path p => !p.qualified
  | .bounds keyword count trailing _ => !keyword && count = 1 && !trailing
  | .other => false

/-- Of two pairs of parentheses around the last part taken, only one stays. -/
def mergeParens : Parse Unit :=
  rewrite fun
    | .group .paren [.group .paren inner] :: before => .group .paren inner :: before
    | taken => taken

def parenType (plus : Bool) : Parse TypeShape := do
  match ← rest with
  | .group .paren inner :: _ =>
    if Ahead.isPunct "?" inner then return ← relaxedBounds g
    match ← group .paren (inParens g) with
    | .single t =>
      if plus && (← ahead (Ahead.isPunct "+")) && canBeBound t then
        if t matches .bounds _ _ _ true then mergeParens
        let more ← moreBounds g ((← rest).length + 1)
        return .bounds false (more + 1) false true
      return .other
    | _ => return .other
  | _ => failure

/-- A type that starts with a path; `introduced` are the tokens of the parameters in front of
it, which a macro call does not keep. -/
def pathType (introduced : List TokenTree) (plus : Bool) : Parse TypeShape := do
  let (p, written) ← capture (qualifiedPath g (anyBound g) false)
  let ts ← rest
  if !p.qualified && Ahead.isPunct "!" ts && !Ahead.isPunct "!=" ts && p.isPlain then
    emit written
    punct "!"
    let _ ← anyGroup
    return .other
  emit (introduced ++ written)
  if p.qualified then return .path p
  if !introduced.isEmpty || (plus && Ahead.isPunct "+" ts) then
    let (more, trailing) ← if plus then moreBoundsLoosely g ((← rest).length + 1) else pure (0, false)
    return .bounds false (more + 1) trailing false
  return .path p

def builtin : Parse Unit := do
  word "builtin"
  punct "#"
  let _ ← ident
  require (← ahead (Ahead.isGroup .paren))
  let _ ← anyGroup

def startsBuiltin (ts : List TokenTree) : Bool :=
  Ahead.isWord "builtin" ts && Ahead.isPunct "#" (Ahead.skip ts)

def bracketType : Parse TypeShape := do
  group .bracket do
    let _ ← g.type true
    if ← punct? ";" then
      let _ ← g.expr true
  return .other

def pointerType : Parse TypeShape := do
  punct "*"
  require (← ahead (Ahead.isWordOf ["const", "mut"]))
  let _ ← anyWord
  let _ ← g.type false
  return .other

def referenceType : Parse TypeShape := do
  punct "&"
  let _ ← lifetime?
  let _ ← word? "mut"
  let _ ← g.type false
  return .other

def startsPath (ts : List TokenTree) : Bool :=
  Ahead.isIdent ts || Ahead.isWordOf ["super", "self", "Self", "crate"] ts ||
    Ahead.isPunct "::" ts || Ahead.isPunct "<" ts

/-- A type that can have parameters in front: a function type or one that starts with a path. -/
def introducedType (plus : Bool) : Parse TypeShape := do
  let (_, introduced) ← if ← ahead (Ahead.isWord "for") then capture (introducedParams g (anyBound g))
    else pure ((), [])
  let ts ← rest
  if Ahead.isWordOf ["fn", "unsafe", "extern"] ts then
    emit introduced
    functionType g
    return .other
  if startsBuiltin ts then
    emit introduced
    builtin
    return .other
  require (introduced.isEmpty ||
    Ahead.isIdent ts || Ahead.isWordOf ["super", "self", "Self", "crate"] ts)
  pathType g introduced plus

/-- Bounds after `dyn`; with a star after it they are kept as they stand. -/
def dynType (plus : Bool) : Parse TypeShape := asWrittenIf do
  word "dyn"
  let star ← punct? "*"
  let (kinds, trailing) ← traitBounds g plus false false
  return (.bounds true kinds.length trailing false, star)

def typeOf (plus : Bool) : Parse TypeShape := do
  let ts ← rest
  if Ahead.isGroup .paren ts then parenType g plus
  else if Ahead.isWordOf ["fn", "unsafe", "extern", "for"] ts || startsPath ts then
    introducedType g plus
  else if Ahead.isWord "dyn" ts then dynType g plus
  else if Ahead.isGroup .bracket ts then bracketType g
  else if Ahead.isPunct "*" ts then pointerType g
  else if Ahead.isPunct "&" ts then referenceType g
  else if Ahead.isPunct "!" ts && !Ahead.isPunct "=" ts then
    punct "!"
    return .other
  else if Ahead.isWord "impl" ts then
    word "impl"
    let _ ← traitBounds g plus true true
    return .other
  else if Ahead.isWord "_" ts then
    word "_"
    return .other
  else if Ahead.isLifetime ts then
    let (kinds, trailing) ← traitBounds g true false false
    return .bounds false kinds.length trailing false
  else failure

end

end EndpointStubs.Syntax
