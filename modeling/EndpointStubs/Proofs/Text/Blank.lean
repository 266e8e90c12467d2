import EndpointStubs.Text.Blank
import Mathlib.Data.List.DropRight

/-!
# Trimmed texts

A text is what trimming leaves, with blanks around it. What is left ends in no blank.

    cs = trimEnd cs ++ blanks        trimEnd (cs ++ blanks) = trimEnd cs
-/

namespace EndpointStubs.Text

variable {cs bs : List Char} {c : Char}

/-- What trimming takes from the end are blanks. -/
theorem exists_blanks (cs : List Char) :
    ∃ bs, (∀ c ∈ bs, isBlank c = true) ∧ cs = trimEnd cs ++ bs :=
  ⟨cs.rtakeWhile isBlank, fun _ => List.mem_rtakeWhile_imp,
    (List.rdropWhile_append_rtakeWhile (l := cs)).symm⟩

theorem trimEnd_concat_blank (h : isBlank c = true) : trimEnd (cs ++ [c]) = trimEnd cs :=
  List.rdropWhile_concat_pos isBlank cs c h

theorem trimEnd_concat_of_not_blank (h : isBlank c = false) : trimEnd (cs ++ [c]) = cs ++ [c] :=
  List.rdropWhile_concat_neg isBlank cs c (by simp [h])

theorem trimEnd_append_blanks (h : ∀ c ∈ bs, isBlank c = true) :
    trimEnd (cs ++ bs) = trimEnd cs := by
  induction bs generalizing cs with
  | nil => rw [List.append_nil]
  | cons c bs ih =>
    rw [List.append_cons, ih fun d hd => h d (List.mem_cons_of_mem c hd)]
    exact trimEnd_concat_blank (h c List.mem_cons_self)

/-- Nothing in front of a character that is no blank is taken. -/
theorem trimEnd_append_cons (h : isBlank c = false) (cs bs : List Char) :
    trimEnd (cs ++ c :: bs) = cs ++ c :: trimEnd bs := by
  simp only [trimEnd, List.reverse_append, List.reverse_cons, List.append_assoc,
    List.dropWhile_append, List.singleton_append, List.dropWhile_cons, h]
  cases hd : (bs.reverse.dropWhile isBlank).isEmpty with
  | true =>
    rw [List.isEmpty_iff] at hd
    simp [hd]
  | false => simp

theorem trimEnd_trimEnd (cs : List Char) : trimEnd (trimEnd cs) = trimEnd cs :=
  List.rdropWhile_idempotent isBlank cs

theorem length_trimEnd_le (cs : List Char) : (trimEnd cs).length ≤ cs.length :=
  (List.rdropWhile_prefix isBlank cs).length_le

/-- A text that ends in no blank is left as it is. -/
theorem trimEnd_eq_self_iff : trimEnd cs = cs ↔ ∀ ds c, cs = ds ++ [c] → isBlank c = false := by
  constructor
  · rintro h ds c rfl
    by_contra hc
    have hlen := length_trimEnd_le ds
    rw [← trimEnd_concat_blank (by simpa using hc), h, List.length_append] at hlen
    exact absurd hlen (by simp)
  · intro h
    rcases List.eq_nil_or_concat' cs with rfl | ⟨ds, c, rfl⟩
    · rfl
    · exact trimEnd_concat_of_not_blank (h ds c rfl)

theorem isBlank_of_trimEnd (h : trimEnd cs = bs ++ [c]) : isBlank c = false :=
  trimEnd_eq_self_iff.1 (trimEnd_trimEnd cs) bs c h

end EndpointStubs.Text
