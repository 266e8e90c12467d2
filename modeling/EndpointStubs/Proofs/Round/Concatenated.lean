import Mathlib.Data.List.Sort
import EndpointStubs.Round

/-!
# Rounds put together

The kinds of a round are those of its declarations, however the round was put together, and nothing
else about it matters: putting rounds together is putting their declarations one after the other.
That the kinds are listed by rank makes two listings of one set equal.

    (ofDeclarations a).extend (ofDeclarations b) = ofDeclarations (a ++ b)
    r.Reachable → r = ofDeclarations r.declarations
-/

namespace EndpointStubs

theorem MarkerKind.rank_injective : Function.Injective rank := by
  intro a b h
  cases a <;> cases b <;> first | rfl | cases h

/-! ## Sets of kinds -/

namespace KindSet

/-- Listed by rank, each kind once. -/
def Ordered (s : KindSet) : Prop := s.Pairwise fun a b => a.rank < b.rank

variable {s t : KindSet} {k x : MarkerKind}

@[simp] theorem mem_insert : x ∈ insert k s ↔ x = k ∨ x ∈ s := by
  induction s with
  | nil => simp [insert]
  | cons a s ih =>
    unfold insert
    split
    · exact List.mem_cons
    · split
      · rename_i hk
        simp [hk]
      · rw [List.mem_cons, ih, List.mem_cons, or_left_comm]

theorem Ordered.insert (h : Ordered s) (k : MarkerKind) : Ordered (insert k s) := by
  induction s with
  | nil => exact List.pairwise_singleton _ k
  | cons a s ih =>
    obtain ⟨ha, hs⟩ := List.pairwise_cons.1 h
    unfold KindSet.insert
    split
    · rename_i hlt
      refine List.pairwise_cons.2 ⟨fun x hx => ?_, h⟩
      rcases List.mem_cons.1 hx with rfl | hx
      · exact hlt
      · exact Nat.lt_trans hlt (ha x hx)
    · split
      · exact h
      · rename_i hle hne
        refine List.pairwise_cons.2 ⟨fun x hx => ?_, ih hs⟩
        rcases mem_insert.1 hx with rfl | hx
        · have hrank : x.rank ≠ a.rank := fun he => hne (MarkerKind.rank_injective he)
          omega
        · exact ha x hx

@[simp] theorem mem_union : x ∈ union s t ↔ x ∈ s ∨ x ∈ t := by
  unfold union
  induction t generalizing s with
  | nil => simp
  | cons k t ih => rw [List.foldl_cons, ih, mem_insert, List.mem_cons, or_assoc, or_left_comm]

theorem Ordered.union (h : Ordered s) (t : KindSet) : Ordered (union s t) := by
  unfold KindSet.union
  induction t generalizing s with
  | nil => exact h
  | cons k t ih => exact ih (h.insert k)

theorem ordered_ofKinds (ks : List MarkerKind) : Ordered (ofKinds ks) :=
  Ordered.union .nil ks

@[simp] theorem mem_ofKinds {ks : List MarkerKind} : k ∈ ofKinds ks ↔ k ∈ ks := by
  simp [ofKinds]

/-- Sets with the same kinds are listed in the same way. -/
theorem Ordered.ext (hs : Ordered s) (ht : Ordered t) (h : ∀ k, k ∈ s ↔ k ∈ t) : s = t := by
  have : Std.Irrefl fun a b : MarkerKind => a.rank < b.rank := ⟨fun _ => Nat.lt_irrefl _⟩
  have : Std.Antisymm fun a b : MarkerKind => a.rank < b.rank :=
    ⟨fun _ _ hab hba => absurd hab (Nat.lt_asymm hba)⟩
  exact List.Pairwise.eq_of_mem_iff hs ht h

end KindSet

/-! ## Rounds -/

namespace Round

open KindSet (Ordered)

/-- The rounds that are made by starting with nothing, taking declarations, and putting such rounds
together. -/
inductive Reachable : Round → Prop
  | nothing : Reachable {}
  | listed (ds : List Declaration) : Reachable (ofDeclarations ds)
  | extend {r s : Round} : Reachable r → Reachable s → Reachable (r.extend s)

theorem markers_ne_nil_of_mem {ds : List Declaration} {d : Declaration}
    (h : d ∈ (ofDeclarations ds).declarations) : d.markers ≠ [] := by
  have hmarked := (List.mem_filter.1 h).2
  rintro hnil
  simp [hnil] at hmarked

/-- The kinds of a round are those of the markers in it. -/
theorem mem_annotations_ofDeclarations {ds : List Declaration} {k : MarkerKind} :
    k ∈ (ofDeclarations ds).annotations ↔
      ∃ d ∈ (ofDeclarations ds).declarations, ∃ m ∈ d.markers, m.kind = k := by
  simp only [ofDeclarations, KindSet.mem_ofKinds, List.mem_flatMap, List.mem_map]

theorem ordered_annotations_ofDeclarations (ds : List Declaration) :
    Ordered (ofDeclarations ds).annotations := KindSet.ordered_ofKinds _

/-- Putting rounds together is putting their declarations together. -/
theorem extend_ofDeclarations (a b : List Declaration) :
    (ofDeclarations a).extend (ofDeclarations b) = ofDeclarations (a ++ b) := by
  have hdeclarations : (ofDeclarations (a ++ b)).declarations =
      (ofDeclarations a).declarations ++ (ofDeclarations b).declarations :=
    List.filter_append ..
  have hannotations : (ofDeclarations a).annotations.union (ofDeclarations b).annotations =
      (ofDeclarations (a ++ b)).annotations := by
    refine Ordered.ext ((ordered_annotations_ofDeclarations a).union _)
      (ordered_annotations_ofDeclarations _) fun k => ?_
    simp only [KindSet.mem_union, mem_annotations_ofDeclarations, hdeclarations, List.mem_append,
      or_and_right, exists_or]
  unfold extend
  rw [hannotations, ← hdeclarations]

/-- Leaving out the unmarked declarations a second time changes nothing. -/
theorem ofDeclarations_declarations (ds : List Declaration) :
    ofDeclarations (ofDeclarations ds).declarations = ofDeclarations ds := by
  simp only [ofDeclarations, List.filter_filter, Bool.and_self]

/-- A reachable round is that of its declarations. -/
theorem Reachable.eq_ofDeclarations {r : Round} (h : r.Reachable) :
    r = ofDeclarations r.declarations := by
  induction h with
  | nothing => rfl
  | listed ds => exact (ofDeclarations_declarations ds).symm
  | @extend r s _ _ ihr ihs =>
    calc r.extend s = (ofDeclarations r.declarations).extend (ofDeclarations s.declarations) := by
          rw [← ihr, ← ihs]
      _ = ofDeclarations (r.declarations ++ s.declarations) := extend_ofDeclarations _ _

/-- A round is empty if no declaration is left in it. -/
theorem isEmpty_ofDeclarations_iff (ds : List Declaration) :
    (ofDeclarations ds).isEmpty = true ↔ (ofDeclarations ds).declarations = [] := by
  unfold isEmpty
  rw [List.isEmpty_iff, List.eq_nil_iff_forall_not_mem, List.eq_nil_iff_forall_not_mem]
  constructor
  · intro h d hd
    obtain ⟨m, ms, hm⟩ := List.exists_cons_of_ne_nil (markers_ne_nil_of_mem hd)
    exact h m.kind (mem_annotations_ofDeclarations.2 ⟨d, hd, m, hm ▸ List.mem_cons_self, rfl⟩)
  · intro h k hk
    obtain ⟨d, hd, -⟩ := mem_annotations_ofDeclarations.1 hk
    exact h d hd

@[simp] theorem extend_nothing (r : Round) : r.extend {} = r := by
  simp [extend, KindSet.union]

theorem nothing_extend {r : Round} (h : Ordered r.annotations) : extend {} r = r := by
  have hunion : KindSet.union [] r.annotations = r.annotations :=
    Ordered.ext (Ordered.union .nil _) h fun k => by simp
  simp [extend, hunion]

end Round

end EndpointStubs
