import EndpointStubs.Document
import EndpointStubs.Json.Basic
import EndpointStubs.Round

/-!
# Manifests

A manifest is a list of declarations in a document. Lists that are missing are empty, a
declared type may be missing or nothing, and everything else has to be there.

    Manifest.ofDocument? Json.view m.toJson = some m
-/

namespace EndpointStubs

/-- A list of declarations, marked or not. -/
structure Manifest where
  declarations : List Declaration := []
  deriving DecidableEq, Repr

def Manifest.round (m : Manifest) : Round := Round.ofDeclarations m.declarations

/-! ## Reading -/

section Reading

variable {D : Type} (v : View D)

def MarkerKind.ofDocument? (d : D) : Option MarkerKind := (v.choice? d).bind MarkerKind.ofName?

/-- A list of texts, empty if it is missing. -/
def textsOfDocument? : Option D → Option (List String) := View.orElse [] (v.list? v.text?)

def Marker.ofDocument? (d : D) : Option Marker := do
  match ← v.record? ["kind", "path", "value"] false d with
  | [some kind, path, value] =>
    return {
      kind := ← MarkerKind.ofDocument? v kind
      path := ← textsOfDocument? v path
      value := ← textsOfDocument? v value }
  | _ => none

def Declaration.ofDocument? (d : D) : Option Declaration := do
  match ← v.record? ["name", "markers", "declared_type"] false d with
  | [some name, markers, declaredType] =>
    return {
      name := ← v.text? name
      markers := ← View.orElse [] (v.list? (Marker.ofDocument? v)) markers
      declaredType := ← View.orElse none (v.optional? v.text?) declaredType }
  | _ => none

def Manifest.ofDocument? (d : D) : Option Manifest := do
  match ← v.record? ["declarations"] false d with
  | [declarations] =>
    return ⟨← View.orElse [] (v.list? (Declaration.ofDocument? v)) declarations⟩
  | _ => none

end Reading

/-! ## JSON -/

/-- The name of a choice: a string, or the only field of an object, without content. -/
def Json.choice? : Json → Option String
  | .string text => text
  | .object [(name, .null)] => name
  | _ => none

def Json.view : View Json where
  text? := Json.text?
  nothing? := fun j => some j.isNull
  items? := Json.items?
  inOrder? := Json.items?
  fields? := Json.fields?
  choice? := Json.choice?

/-- Empty lists are left out. -/
def Marker.toJson (m : Marker) : Json :=
  Json.ofFields
    ([("kind", Json.ofString m.kind.name)] ++
      (if m.path = [] then [] else [("path", Json.ofStrings m.path)]) ++
      (if m.value = [] then [] else [("value", Json.ofStrings m.value)]))

/-- A declared type that is missing is left out. -/
def Declaration.toJson (d : Declaration) : Json :=
  Json.ofFields
    ([("name", Json.ofString d.name), ("markers", .array (d.markers.map Marker.toJson))] ++
      (match d.declaredType with
        | some type => [("declared_type", Json.ofString type)]
        | none => []))

def Manifest.toJson (m : Manifest) : Json :=
  Json.ofFields [("declarations", .array (m.declarations.map Declaration.toJson))]

end EndpointStubs
