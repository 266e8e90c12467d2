import EndpointStubs.Syntax.Generics
import EndpointStubs.Syntax.Expressions

/-!
# Items

An item is a definition outside of expressions. Of most kinds only the form is checked; of
types, traits, implementations, functions and modules the names and attributes are kept.
-/

namespace EndpointStubs.Syntax

open Parse

section
variable (g : Grammar)

/-! ## Parts of items -/

/-- A type after a colon. -/
def typed : Parse Unit := do
  punct ":"
  let _ ← g.type true

/-- A value after a sign of equality, if that is there; tells whether it is. -/
def optionalValue : Parse Bool := do
  if ← punct? "=" then
    let _ ← g.expr true
    return true
  return false

/-- Attributes at the start of a body, and its statements. -/
def functionBody : Parse (List Attribute) := do
  group .brace do
    let inner ← innerAttributes g
    g.statements
    return inner

/-- A constant; tells whether it has parameters or conditions, and whether it has a value. -/
def constant : Parse (Bool × Bool) := do
  word "const"
  let _ ← identOrBlank
  let generic ← genericParams g
  typed g
  let valued ← optionalValue g
  let conditional ← whereClause g
  punct ";"
  return (generic || conditional, valued)

/-- Where the conditions of a type definition may stand. -/
inductive ConditionPlace where
  | beforeValue
  | afterValue
  | either
  deriving DecidableEq

/-- The definition of a name for a type, after its visibility; tells whether it has bounds, and
whether it has a value. -/
def typeDefinition (place : ConditionPlace) : Parse (Bool × Bool) := do
  word "type"
  let _ ← ident
  let _ ← genericParams g
  let bounded ← optionalBounds g fun ts =>
    Ahead.isWord "where" ts || Ahead.isPunct "=" ts || Ahead.isPunct ";" ts
  let before ← if place ≠ .afterValue then whereClause g else pure false
  let valued ← punct? "="
  if valued then
    let _ ← g.type true
  if place ≠ .beforeValue && !before then
    let _ ← whereClause g
  punct ";"
  return (bounded, valued)

def startsMacroCall (ts : List TokenTree) : Bool :=
  Ahead.isIdent ts || Ahead.isWordOf ["self", "super", "crate"] ts || Ahead.isPunct "::" ts

/-- A macro call as an item; tells whether a name may stand before its arguments. -/
def macroItem (named : Bool) : Parse Unit := do
  let _ ← plainPath
  punct "!"
  if named && (← ahead fun ts => Ahead.isIdent ts || Ahead.isWord "try" ts) then
    let _ ← anyWord
  let (d, _) ← anyGroup
  if d ≠ .brace then punct ";"

/-! ## Imports -/

/-- A new name after `as`. -/
def newName : Parse Unit := do
  let _ ← identOrBlank

/-- A tree of imported names. -/
def useTree : Nat → Bool → Parse Unit
  | 0, _ => failure
  | n + 1, rootAllowed => do
    let ts ← rest
    if Ahead.isIdent ts || Ahead.isWordOf ["self", "super", "crate", "try"] ts then
      let _ ← anyWord
      if ← punct? "::" then useTree n false
      else if ← word? "as" then newName
    else if Ahead.isPunct "*" ts then punct "*"
    else
      group .brace do
        let _ ← commaList do
          let rooted ← if rootAllowed then punct? "::" else pure false
          useTree n (rootAllowed && !rooted)

def useItem : Parse Unit := do
  word "use"
  let depth ← depthAhead
  let rooted ← punct? "::"
  useTree depth (!rooted)
  punct ";"

/-! ## Fields and variants -/

def namedFields : Nat → Parse Unit
  | 0 => failure
  | n + 1 => do
    group .brace do
      let _ ← commaList do
        let _ ← outerAttributes g
        let _ ← visibility
        let unnamed ← word? "_"
        if !unnamed then
          let _ ← ident
        punct ":"
        let inPlace ← ahead fun ts => Ahead.isWord "struct" ts ||
          (Ahead.isWord "union" ts && Ahead.isGroup .brace (Ahead.skip ts))
        if unnamed && inPlace then
          asWritten do
            let _ ← anyWord
            namedFields n
        else
          let _ ← g.type true

def tupleFields : Parse Unit := do
  group .paren do
    let _ ← commaList do
      let _ ← outerAttributes g
      let _ ← visibility
      let _ ← g.type true

def structureRest : Parse Unit := do
  let early ← whereClause g
  let ts ← rest
  if !early && Ahead.isGroup .paren ts then
    tupleFields g
    let _ ← whereClause g
    punct ";"
  else if Ahead.isGroup .brace ts then namedFields g (← depthAhead)
  else punct ";"

/-- A variant of an enumeration; a visibility of its own says nothing. -/
def variant : Parse Unit := do
  let _ ← outerAttributes g
  let _ ← dropping visibility
  let _ ← ident
  let ts ← rest
  if Ahead.isGroup .brace ts then namedFields g (← depthAhead)
  else if Ahead.isGroup .paren ts then tupleFields g
  let _ ← optionalValue g

def enumerationRest : Parse Unit := do
  let _ ← whereClause g
  group .brace do
    let _ ← commaList (variant g)

/-! ## Functions in traits and implementations -/

def traitFunction (attributes : List Attribute) : Parse Function := do
  let (name, returns) ← signature g
  if ← punct? ";" then return ⟨attributes, name, returns⟩
  return ⟨attributes ++ (← functionBody g), name, returns⟩

/-- One item of a trait; what a trait cannot hold is kept as it stands. -/
def traitItem : Parse (Option Function) := asWrittenIf do
  let attributes ← outerAttributes g
  let visible ← visibility
  let default ← word? "default"
  let ts ← rest
  let marked := visible || default
  if ← startsSignature then
    let f ← traitFunction g attributes
    return (if marked then none else some f, marked)
  if Ahead.isWord "const" ts then
    let (generic, _) ← constant g
    return (none, marked || generic)
  if Ahead.isWord "type" ts then
    let _ ← typeDefinition g .afterValue
    return (none, marked)
  require (!marked && startsMacroCall ts)
  macroItem false
  return (none, false)

/-- One item of an implementation; what an implementation cannot hold is kept as it stands. -/
def implementationItem : Parse (Option Function) := asWrittenIf do
  let attributes ← outerAttributes g
  let visible ← visibility
  let default ← if ← ahead (fun ts => Ahead.isPunct "!" (Ahead.skip ts)) then pure false
    else word? "default"
  let ts ← rest
  if ← startsSignature then
    let (name, returns) ← signature g
    if ← punct? ";" then return (none, true)
    return (some ⟨attributes ++ (← functionBody g), name, returns⟩, false)
  if Ahead.isWord "const" ts then
    let (generic, valued) ← constant g
    return (none, generic || !valued)
  if Ahead.isWord "type" ts then
    let (bounded, valued) ← typeDefinition g .afterValue
    return (none, bounded || !valued)
  require (!visible && !default && startsMacroCall ts)
  macroItem false
  return (none, false)

/-! ## Traits -/

def traitRest (attributes : List Attribute) (name : Word) : Parse Item := do
  let _ ← optionalBounds g fun ts => Ahead.isWord "where" ts || Ahead.isGroup .brace ts
  let _ ← whereClause g
  group .brace do
    let inner ← innerAttributes g
    let functions ← many (traitItem g)
    return .trait (attributes ++ inner) name (functions.filterMap id)

/-- A trait, or another name for bounds. -/
def traitOrBounds (attributes : List Attribute) (plain : Bool) : Parse Item := do
  word "trait"
  let name ← ident
  let _ ← genericParams g
  if plain && (← punct? "=") then
    let _ ← list (fun ts => Ahead.isWord "where" ts || Ahead.isPunct ";" ts) "+" (plainBound g)
    let _ ← whereClause g
    punct ";"
    return .other
  traitRest g attributes name

/-! ## Implementations -/

/-- The last name of a type that is a path. -/
def ownerOf : TypeShape → Option Word
  | .path p => p.segments.getLast?.map Prod.fst
  | _ => none

/-- An implementation, after its attributes and visibility. Only one of a trait can be
negative. -/
def implementation (visible : Bool) : Parse Item := do
  let _ ← word? "default"
  let _ ← word? "unsafe"
  word "impl"
  if ← ahead startsParams then
    let _ ← genericParams g
  let conditional ← ahead fun ts => Ahead.isWord "const" ts ||
    (Ahead.isPunct "?" ts && Ahead.isWord "const" (Ahead.skip ts))
  if conditional then
    let _ ← punct? "?"
    word "const"
  let negative ← ahead fun ts =>
    Ahead.isPunct "!" ts && !Ahead.isGroup .brace (Ahead.skip ts)
  if negative then punct "!"
  let first ← g.type true
  let (owner, ofTrait) ← do
    if ← word? "for" then
      let self ← g.type true
      pure (ownerOf self, match first with
        | .path p => !p.qualified
        | _ => false)
    else
      require !negative
      pure (ownerOf first, true)
  let _ ← whereClause g
  let functions ← group .brace do
    let _ ← innerAttributes g
    many (implementationItem g)
  return if visible || conditional || !ofTrait then .asWritten
    else .implementation owner (functions.filterMap id)

/-! ## Foreign items -/

/-- One item of a foreign module; what such a module cannot hold is kept as it stands. -/
def foreignItem : Parse Unit := asWrittenIf do
  let _ ← outerAttributes g
  let visible ← visibility
  let ts ← rest
  let isFunction ← peek do
    let _ ← word? "const"
    let _ ← word? "async"
    if !(← word? "safe") then
      let _ ← word? "unsafe"
    abi?
    word "fn"
  if isFunction.isSome then
    let _ ← word? "const"
    let _ ← word? "async"
    let safe ← word? "safe"
    let _ ← signature g
    if ← ahead (Ahead.isGroup .brace) then
      let _ ← functionBody g
      return ((), true)
    punct ";"
    return ((), safe)
  else if Ahead.isWord "static" ts ||
      (Ahead.isWordOf ["unsafe", "safe"] ts && Ahead.isWord "static" (Ahead.skip ts)) then
    let marked := !Ahead.isWord "static" ts
    if marked then
      let _ ← anyWord
    word "static"
    let _ ← word? "mut"
    let _ ← ident
    typed g
    let valued ← optionalValue g
    punct ";"
    return ((), marked || valued)
  else if Ahead.isWord "type" ts then
    let (bounded, valued) ← typeDefinition g .either
    return ((), bounded || valued)
  else
    require (!visible && startsMacroCall ts)
    macroItem false
    return ((), false)

/-- Definitions that lie outside. -/
def foreignModule : Parse Unit := do
  let _ ← word? "unsafe"
  abi
  group .brace do
    let _ ← innerAttributes g
    let _ ← many (foreignItem g)

/-! ## Other items -/

/-- A library to link. -/
def externCrate : Parse Unit := do
  word "extern"
  word "crate"
  if !(← word? "self") then
    let _ ← ident
  if ← word? "as" then newName
  punct ";"

/-- A value with a place of its own; without a type or a value it is kept as it stands. -/
def staticItem : Parse Item := do
  word "static"
  let _ ← word? "mut"
  let _ ← ident
  let untyped ← optionalValue g
  if untyped then
    punct ";"
    return .asWritten
  typed g
  let valued ← optionalValue g
  punct ";"
  return if valued then .other else .asWritten

/-- A constant; only one with a value and without parameters has a normal form. -/
def constantItem : Parse Item := do
  let (generic, valued) ← constant g
  return if valued && !generic then .other else .asWritten

/-- A name for a type; only one with a value and without bounds has a normal form. -/
def typeNameItem : Parse Item := do
  let (bounded, valued) ← typeDefinition g .beforeValue
  return if valued && !bounded then .other else .asWritten

def macroDefinition : Parse Unit := do
  word "macro"
  let _ ← ident
  if ← ahead (Ahead.isGroup .paren) then
    let _ ← anyGroup
  require (← ahead (Ahead.isGroup .brace))
  let _ ← anyGroup

/-- A module, with its items here or elsewhere. -/
def moduleItem : Parse Item := do
  let _ ← word? "unsafe"
  word "mod"
  let name ← if ← ahead (Ahead.isWord "try") then anyWord else ident
  if ← punct? ";" then return .other
  group .brace do
    let _ ← innerAttributes g
    return .module name (← many g.item)

/-- A structure, an enumeration or a union, after its visibility. -/
def typeItem (attributes : List Attribute) : Parse Item := do
  let kind ← anyWord
  let name ← ident
  let _ ← genericParams g
  if kind.text = "struct" then
    structureRest g
    return .type attributes name
  else if kind.text = "enum" then
    enumerationRest g
    return .type attributes name
  else
    let _ ← whereClause g
    namedFields g (← depthAhead)
    return .other

def functionItem (attributes : List Attribute) : Parse Item := do
  let (name, returns) ← signature g
  if ← punct? ";" then return .asWritten
  return .function ⟨attributes ++ (← functionBody g), name, returns⟩

/-! ## Items -/

/-- An item, after its attributes and visibility; `visible` tells whether that is there. -/
def itemRest (attributes : List Attribute) (visible : Bool) : Parse Item := do
  let ts ← rest
  let next := Ahead.skip ts
  let other (p : Parse Unit) : Parse Item := do
    p
    return .other
  let trait (ts : List TokenTree) : Bool :=
    Ahead.isWord "trait" ts || (Ahead.isWord "auto" ts && Ahead.isWord "trait" (Ahead.skip ts))
  if ← startsSignature then functionItem g attributes
  else if Ahead.isWord "extern" ts then
    if Ahead.isWord "crate" next then other externCrate
    else
      require (!visible)
      other (foreignModule g)
  else if Ahead.isWord "use" ts then other useItem
  else if Ahead.isWord "static" ts then staticItem g
  else if Ahead.isWord "const" ts then constantItem g
  else if Ahead.isWord "unsafe" ts && trait next then
    word "unsafe"
    let _ ← word? "auto"
    traitOrBounds g attributes false
  else if Ahead.isWord "unsafe" ts && Ahead.isWord "extern" next then
    require (!visible)
    other (foreignModule g)
  else if Ahead.isWord "mod" ts || (Ahead.isWord "unsafe" ts && Ahead.isWord "mod" next) then
    moduleItem g
  else if Ahead.isWord "unsafe" ts then implementation g visible
  else if Ahead.isWord "type" ts then typeNameItem g
  else if Ahead.isWordOf ["struct", "enum"] ts then typeItem g attributes
  else if Ahead.isWord "union" ts && Ahead.isIdent next then typeItem g attributes
  else if Ahead.isWord "trait" ts then traitOrBounds g attributes true
  else if trait ts then
    word "auto"
    traitOrBounds g attributes false
  else if Ahead.isWord "impl" ts || (Ahead.isWord "default" ts && !Ahead.isPunct "!" next) then
    implementation g visible
  else if Ahead.isWord "macro" ts then other macroDefinition
  else
    require (!visible && startsMacroCall ts)
    other (macroItem true)

def itemOf : Parse Item := asWrittenIf do
  let attributes ← outerAttributes g
  let visible ← visibility
  let item ← itemRest g attributes visible
  return (item, item matches .asWritten)

end

end EndpointStubs.Syntax
