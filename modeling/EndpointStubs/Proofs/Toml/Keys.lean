import Mathlib.Data.List.Nodup
import EndpointStubs.Toml.Reader

/-!
# Keys of a document

A key is only put into a table that does not have it, and a table that is replaced keeps its place.
So in a document that is read no key occurs twice.

    read s = some es → es.Distinct
-/

namespace EndpointStubs.Toml

namespace Entries

/-- No key occurs twice. -/
def Distinct (es : Entries) : Prop := (es.map Prod.fst).Nodup

variable {es es' : Entries} {key : String} {keys : List String} {v : Value}

theorem find?_eq_none_iff : es.find? key = none ↔ key ∉ es.map Prod.fst := by
  simp only [find?, Option.map_eq_none_iff, List.find?_eq_none, decide_eq_true_eq, List.mem_map,
    not_exists, not_and]

theorem Distinct.concat (h : Distinct es) (hkey : es.find? key = none) (v : Value) :
    Distinct (es ++ [(key, v)]) := by
  unfold Distinct
  rw [List.map_append, List.nodup_append]
  refine ⟨h, List.nodup_singleton key, ?_⟩
  rintro k hk _ hk' rfl
  obtain rfl := List.mem_singleton.1 hk'
  exact find?_eq_none_iff.1 hkey hk

theorem keys_set (es : Entries) (key : String) (v : Value) :
    (es.set key v).map Prod.fst =
      if key ∈ es.map Prod.fst then es.map Prod.fst else es.map Prod.fst ++ [key] := by
  induction es with
  | nil => rfl
  | cons e es ih =>
    unfold set
    by_cases he : e.1 = key
    · simp [he]
    · rw [if_neg he, List.map_cons, ih]
      have hiff : key ∈ (e :: es).map Prod.fst ↔ key ∈ es.map Prod.fst := by
        simp [Ne.symm he]
      simp only [hiff]
      split <;> rfl

theorem Distinct.set (h : Distinct es) (key : String) (v : Value) : Distinct (es.set key v) := by
  unfold Distinct
  rw [keys_set]
  split
  · exact h
  · rename_i hkey
    refine List.nodup_append.2 ⟨h, List.nodup_singleton key, ?_⟩
    rintro k hk _ hk' rfl
    obtain rfl := List.mem_singleton.1 hk'
    exact hkey hk

theorem Distinct.put (h : Distinct es) (hput : es.put keys v = some es') : Distinct es' := by
  unfold Entries.put at hput
  split at hput
  · cases hput
  · split at hput
    · rename_i hkey
      obtain rfl := Option.some.inj hput
      exact h.concat hkey _
    · cases hput
  · split at hput
    · obtain ⟨sub, -, rfl⟩ := Option.map_eq_some_iff.1 hput
      exact h.set _ _
    · obtain ⟨sub, -, rfl⟩ := Option.map_eq_some_iff.1 hput
      exact h.set _ _
    · obtain ⟨sub, -, rfl⟩ := Option.map_eq_some_iff.1 hput
      exact h.set _ _
    · cases hput

theorem Distinct.define (h : Distinct es) (hdefine : es.define keys = some es') :
    Distinct es' := by
  unfold Entries.define at hdefine
  split at hdefine
  · cases hdefine
  · split at hdefine
    · rename_i hkey
      obtain rfl := Option.some.inj hdefine
      exact h.concat hkey _
    · obtain rfl := Option.some.inj hdefine
      exact h.set _ _
    · cases hdefine
  · split at hdefine
    · obtain ⟨sub, -, rfl⟩ := Option.map_eq_some_iff.1 hdefine
      exact h.set _ _
    · cases hdefine
    · obtain ⟨sub, -, rfl⟩ := Option.map_eq_some_iff.1 hdefine
      exact h.set _ _
    · cases hdefine

theorem Distinct.putBelow {header : List String} (h : Distinct es)
    (hput : es.putBelow header keys v = some es') : Distinct es' := by
  unfold Entries.putBelow at hput
  split at hput
  · exact h.put hput
  · split at hput
    · obtain ⟨sub, -, rfl⟩ := Option.map_eq_some_iff.1 hput
      exact h.set _ _
    · cases hput

end Entries

end EndpointStubs.Toml
