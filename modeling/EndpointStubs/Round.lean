import EndpointStubs.Declaration

/-!
# Rounds

A round is one batch of marked declarations, together with the set of marker kinds that
occur in it. Declarations without marker never enter a round, and two rounds can be put
together.
-/

namespace EndpointStubs

/-- A set of marker kinds, listed by rank. -/
abbrev KindSet := List MarkerKind

namespace KindSet

/-- Adds a kind at its place. -/
def insert (k : MarkerKind) : KindSet → KindSet
  | [] => [k]
  | x :: xs =>
    if k.rank < x.rank then k :: x :: xs
    else if k = x then x :: xs
    else x :: insert k xs

def union (s t : KindSet) : KindSet := t.foldl (fun acc k => insert k acc) s

def ofKinds (ks : List MarkerKind) : KindSet := union [] ks

end KindSet

/-- One batch of marked declarations. -/
structure Round where
  /-- The kinds that occur. -/
  annotations : KindSet := []
  /-- The declarations, in the order in which they were presented. -/
  declarations : List Declaration := []
  deriving DecidableEq, Repr

namespace Round

/-- The round of those declarations that carry a marker. -/
def ofDeclarations (ds : List Declaration) : Round :=
  let kept := ds.filter fun d => !d.markers.isEmpty
  { annotations := KindSet.ofKinds (kept.flatMap fun d => d.markers.map Marker.kind)
    declarations := kept }

/-- No marker occurs. -/
def isEmpty (r : Round) : Bool := r.annotations.isEmpty

/-- Both rounds, the second after the first. -/
def extend (r s : Round) : Round :=
  { annotations := r.annotations.union s.annotations
    declarations := r.declarations ++ s.declarations }

end Round

end EndpointStubs
