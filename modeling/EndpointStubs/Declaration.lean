import EndpointStubs.Marker
import EndpointStubs.QualifiedName

/-!
# Declarations

A declaration is a qualified name with its markers and, for a handler, the declared type.
It counts as a controller if any marker says so, else as the route of its first route
marker, else as nothing.
-/

namespace EndpointStubs

/-- A named declaration with its markers. -/
structure Declaration where
  name : String
  markers : List Marker := []
  declaredType : Option String := none
  deriving DecidableEq, Repr

/-- What a declaration counts as. -/
inductive DeclarationClass where
  | controller (marker : Marker)
  | route (verb : Verb) (marker : Marker)
  | unrecognized
  deriving DecidableEq, Repr

namespace Declaration

/-- The name after its last dot. -/
def simpleName (d : Declaration) : String := (QualifiedName.split d.name).2

/-- The first route marker, with its verb. -/
def firstRoute? (d : Declaration) : Option (Verb × Marker) :=
  d.markers.findSome? fun m => m.kind.verb?.map fun v => (v, m)

/-- Controllers come before routes, routes before everything else. -/
def classify (d : Declaration) : DeclarationClass :=
  match d.markers.find? fun m => m.kind.isController with
  | some m => .controller m
  | none =>
    match d.firstRoute? with
    | some (v, m) => .route v m
    | none => .unrecognized

end Declaration

end EndpointStubs
