import EndpointStubs.Syntax.Cursor

/-!
# Lists in angle brackets

Arguments, parameters and captures stand between angle brackets, with commas between. In normal
form the lifetimes come first, with the commas that this order needs.

    <A, 'a>  ↦  <'a, A,>          <A, 'a, B>  ↦  <'a, A, B>
-/

namespace EndpointStubs.Syntax

open Parse

/-- What an entry is, as far as its place is concerned. -/
inductive EntryKind where
  | lifetime
  | other
  deriving DecidableEq

/-- An entry with its tokens, and whether a comma follows it. -/
structure Entry where
  kind : EntryKind
  tokens : List TokenTree
  comma : Bool

namespace Entry

/-- The mark between entries. -/
def separator : List TokenTree := [.punct ',' false]

/-- The tokens of an entry, with its comma. -/
def print (e : Entry) : List TokenTree := e.tokens ++ if e.comma then separator else []

/-- The tokens of entries; a comma is set where the entry before has none. -/
def printAfter : Bool → List Entry → List TokenTree
  | _, [] => []
  | separated, e :: es =>
    (if separated then [] else separator) ++ e.print ++ printAfter e.comma es

/-- The tokens of entries, lifetimes first. -/
def printAll (es : List Entry) : List TokenTree :=
  let lifetimes := es.filter fun e => e.kind = .lifetime
  let others := es.filter fun e => e.kind ≠ .lifetime
  lifetimes.flatMap print ++ printAfter (lifetimes.getLast?.all Entry.comma) others

end Entry

/-- Parameters in angle brackets stand in front, and no type. -/
def startsParams (ts : List TokenTree) : Bool :=
  let next := Ahead.skip ts
  let after := Ahead.skip next
  Ahead.isPunct "<" ts && (Ahead.isPunct ">" next || Ahead.isPunct "#" next ||
    Ahead.isWord "const" next ||
    ((Ahead.isLifetime next || Ahead.isIdent next) &&
      ((Ahead.isPunct ":" after && !Ahead.isPunct "::" after) || Ahead.isPunct "," after ||
        Ahead.isPunct ">" after || Ahead.isPunct "=" after)))

/-- Entries up to the closing bracket. -/
def entries (entry : Parse EntryKind) : Nat → Parse (List Entry)
  | 0 => failure
  | n + 1 => do
    if ← ahead (Ahead.isPunct ">") then return []
    let (kind, tokens) ← capture entry
    if ← ahead (Ahead.isPunct ">") then return [⟨kind, tokens, false⟩]
    dropping (punct ",")
    return ⟨kind, tokens, true⟩ :: (← entries entry n)

/-- A list in angle brackets; without entries it may stand for nothing. -/
def angleList (emptyStands : Bool) (entry : Parse EntryKind) : Parse Unit := do
  let (_, opening) ← capture (punct "<")
  let (es, _) ← capture (entries entry ((← rest).length + 1))
  let (_, closing) ← capture (punct ">")
  if emptyStands || !es.isEmpty then emit (opening ++ Entry.printAll es ++ closing)

/-- What stands after a colon, if that is there; without anything the colon is dropped. -/
def afterColon (p : Parse Unit) : Parse Unit := do
  let (colon, mark) ← capture (punct? ":")
  if colon then
    let (_, ts) ← capture p
    if !ts.isEmpty then emit (mark ++ ts)

end EndpointStubs.Syntax
