/-!
# Pieces of a text

Cutting a text at every occurrence of a separator, or at the last one, and putting pieces
together again.

    join sep (pieces sep cs) = cs                                   (join_pieces)
    splitAtLast sep cs = some (a, b) → cs = a ++ sep :: b           (eq_of_splitAtLast)
-/

namespace EndpointStubs.Text

/-! ## All separators -/

/-- The pieces between separators; a text without separator is one piece. -/
def pieces (sep : Char) : List Char → List (List Char)
  | [] => [[]]
  | c :: cs =>
    if c = sep then [] :: pieces sep cs
    else
      match pieces sep cs with
      | [] => [[c]]
      | p :: ps => (c :: p) :: ps

/-- Pieces with a separator between neighbours. -/
def join (sep : List Char) : List (List Char) → List Char
  | [] => []
  | [p] => p
  | p :: q :: ps => p ++ sep ++ join sep (q :: ps)

theorem pieces_ne_nil (sep : Char) (cs : List Char) : pieces sep cs ≠ [] := by
  cases cs with
  | nil => simp [pieces]
  | cons c cs =>
    simp only [pieces]
    split
    · simp
    · split <;> simp

theorem join_pieces (sep : Char) (cs : List Char) : join [sep] (pieces sep cs) = cs := by
  induction cs with
  | nil => rfl
  | cons c cs ih =>
    obtain ⟨p, ps, hp⟩ := List.exists_cons_of_ne_nil (pieces_ne_nil sep cs)
    simp only [pieces]
    split
    · rename_i h
      rw [hp] at ih ⊢
      simp [join, ih, h]
    · rw [hp] at ih ⊢
      cases ps with
      | nil => simpa [join] using ih
      | cons q ps => simpa [join] using ih

def splitString (sep : Char) (s : String) : List String :=
  (pieces sep s.toList).map String.ofList

/-- Strings with a separator between neighbours. -/
def joinStrings (sep : String) (ss : List String) : String :=
  String.ofList (join sep.toList (ss.map String.toList))

/-! ## The last separator -/

/-- The texts before and after the last separator. -/
def splitAtLast (sep : Char) : List Char → Option (List Char × List Char)
  | [] => none
  | c :: cs =>
    match splitAtLast sep cs with
    | some (a, b) => some (c :: a, b)
    | none => if c = sep then some ([], cs) else none

theorem eq_of_splitAtLast {sep : Char} {cs a b : List Char}
    (h : splitAtLast sep cs = some (a, b)) : cs = a ++ sep :: b := by
  induction cs generalizing a b with
  | nil => simp [splitAtLast] at h
  | cons c cs ih =>
    simp only [splitAtLast] at h
    split at h
    · rename_i a' b' h'
      simp only [Option.some.injEq, Prod.mk.injEq] at h
      obtain ⟨rfl, rfl⟩ := h
      rw [ih h']
      rfl
    · split at h
      · rename_i hc
        simp only [Option.some.injEq, Prod.mk.injEq] at h
        obtain ⟨rfl, rfl⟩ := h
        rw [hc]
        rfl
      · simp at h

end EndpointStubs.Text
