import Mathlib.Data.List.Nodup

/-!
# Lists with keys

Entries, fields and settings are lists of keys with values. Where no key occurs twice, looking for
a key finds the only value there is.

    (a, b) ∈ xs → xs.find? (fun x => x.1 = a) = some (a, b)
-/

namespace EndpointStubs.Keyed

variable {α β : Type} [DecidableEq α] {xs : List (α × β)} (h : (xs.map Prod.fst).Nodup)

include h

theorem find?_of_mem {a : α} {b : β} (hm : (a, b) ∈ xs) :
    xs.find? (fun x => x.1 = a) = some (a, b) := by
  induction xs with
  | nil => cases hm
  | cons x xs ih =>
    rw [List.map_cons, List.nodup_cons] at h
    rcases List.mem_cons.1 hm with rfl | hm
    · simp
    · have hx : x.1 ≠ a := by
        rintro rfl
        exact h.1 (List.mem_map.2 ⟨_, hm, rfl⟩)
      simpa [hx] using ih h.2 hm

/-- There is at most one entry of a key. -/
theorem filter_eq_toList_find? (a : α) :
    xs.filter (fun x => x.1 = a) = (xs.find? fun x => x.1 = a).toList := by
  induction xs with
  | nil => rfl
  | cons x xs ih =>
    rw [List.map_cons, List.nodup_cons] at h
    by_cases hx : x.1 = a
    · have hnone : xs.filter (fun y => y.1 = a) = [] := by
        refine List.filter_eq_nil_iff.2 fun y hy hya => h.1 ?_
        rw [hx, ← of_decide_eq_true hya]
        exact List.mem_map_of_mem hy
      simp [hx, hnone]
    · simpa [hx] using ih h.2

end EndpointStubs.Keyed
