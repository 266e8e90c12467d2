import EndpointStubs.Proofs.Text.Pieces
import EndpointStubs.QualifiedName

/-!
# Splitting and joining names

Splitting cuts a name at its last dot, so a simple name has no dot, and every name with a dot is
its package, a dot and its simple name. Splitting undoes joining exactly where the simple name has
no dot. Joining undoes splitting unless the only dot of the name stands in front: then the package
is empty, and the dot of an empty package is left out.

    split (qualify p s) = (p, s)            ↔ '.' ∉ s
    qualify (split n).1 (split n).2 = n     ↔ n ≠ "." ++ s for every s without dot
-/

namespace EndpointStubs.QualifiedName

variable {name package simple : String}

/-! ## Splitting -/

theorem split_of_not_mem (h : '.' ∉ name.toList) : split name = ("", name) := by
  unfold split
  rw [Text.splitAtLast_of_not_mem h]

/-- The simple name is what stands behind the last dot. -/
theorem split_append (h : '.' ∉ simple.toList) (package : String) :
    split (package ++ "." ++ simple) = (package, simple) := by
  have htext : (package ++ "." ++ simple).toList = package.toList ++ '.' :: simple.toList := by
    simp
  unfold split
  rw [htext, Text.splitAtLast_append h]
  simp

theorem dot_not_mem_split (name : String) : '.' ∉ (split name).2.toList := by
  unfold split
  split
  · rename_i package simple h
    simpa using Text.not_mem_of_splitAtLast h
  · rename_i h
    exact Text.not_mem_of_splitAtLast_eq_none h

/-- A name has no dot, or it is a package, a dot and a simple name. -/
theorem eq_or_eq_append (name : String) :
    '.' ∉ name.toList ∨
      ∃ package simple, '.' ∉ simple.toList ∧ name = package ++ "." ++ simple := by
  cases h : Text.splitAtLast '.' name.toList with
  | none => exact .inl (Text.not_mem_of_splitAtLast_eq_none h)
  | some parts =>
    obtain ⟨package, simple⟩ := parts
    refine .inr ⟨String.ofList package, String.ofList simple, ?_, ?_⟩
    · simpa using Text.not_mem_of_splitAtLast h
    · apply String.toList_injective
      simpa using Text.eq_of_splitAtLast h

/-- The simple name is empty only if the name is, or ends in a dot. -/
theorem simple_eq_empty_iff (name : String) :
    (split name).2 = "" ↔ name = "" ∨ ∃ package, name = package ++ "." := by
  constructor
  · intro h
    rcases eq_or_eq_append name with hname | ⟨package, simple, hsimple, rfl⟩
    · rw [split_of_not_mem hname] at h
      exact .inl h
    · rw [split_append hsimple] at h
      obtain rfl : simple = "" := h
      exact .inr ⟨package, by simp⟩
  · rintro (rfl | ⟨package, rfl⟩)
    · rfl
    · have hdot : '.' ∉ ("" : String).toList := by simp
      have hsplit := split_append hdot package
      rw [String.append_empty] at hsplit
      rw [hsplit]

/-! ## Joining -/

theorem qualify_of_ne (h : package ≠ "") (simple : String) :
    qualify package simple = package ++ "." ++ simple := by
  unfold qualify
  rw [if_neg h]

/-- Splitting undoes joining. -/
theorem split_qualify (h : '.' ∉ simple.toList) (package : String) :
    split (qualify package simple) = (package, simple) := by
  by_cases hp : package = ""
  · subst hp
    exact split_of_not_mem h
  · rw [qualify_of_ne hp]
    exact split_append h package

/-- Splitting undoes qualifying exactly if the simple name has no dot. -/
theorem split_qualify_iff (package simple : String) :
    split (qualify package simple) = (package, simple) ↔ '.' ∉ simple.toList := by
  constructor
  · intro h
    have hlast := dot_not_mem_split (qualify package simple)
    rwa [h] at hlast
  · intro h
    exact split_qualify h package

/-- Joining undoes splitting, unless only an empty package stands in front of the last dot. -/
theorem qualify_split_iff (name : String) :
    qualify (split name).1 (split name).2 = name ↔
      ¬∃ simple, '.' ∉ simple.toList ∧ name = "." ++ simple := by
  rcases eq_or_eq_append name with hname | ⟨package, simple, hsimple, rfl⟩
  · constructor
    · rintro - ⟨simple, -, rfl⟩
      exact hname (by simp)
    · intro _
      rw [split_of_not_mem hname]
      rfl
  · rw [split_append hsimple]
    by_cases hp : package = ""
    · subst hp
      have hjoined : qualify "" simple = simple := rfl
      constructor
      · intro h
        rw [hjoined] at h
        exact absurd (h ▸ hsimple) (by simp)
      · intro h
        exact absurd ⟨simple, hsimple, by simp⟩ h
    · constructor
      · rintro - ⟨other, hother, h⟩
        -- The same name would have an empty package.
        have hsplit : split (package ++ "." ++ simple) = split ("" ++ "." ++ other) := by
          rw [h]
          rfl
        rw [split_append hsimple, split_append hother] at hsplit
        exact hp (congrArg Prod.fst hsplit)
      · intro _
        exact qualify_of_ne hp simple

end EndpointStubs.QualifiedName
