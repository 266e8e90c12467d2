import EndpointStubs.Text.Pieces

/-!
# Pieces and joins

Cutting undoes putting together, as long as no piece holds the separator; cutting a text that
is put together from two around a separator gives the pieces of both.

    pieces sep (join [sep] ps) = ps                         for ps ≠ [] without separators
    pieces sep (a ++ sep :: b) = pieces sep a ++ pieces sep b
    ps <+: qs → join sep ps <+: join sep qs
    join sep (ps ++ qs) = join sep ps ++ sep ++ join sep qs for ps ≠ [] and qs ≠ []
    splitAtLast sep (a ++ sep :: b) = some (a, b)           for b without separator
-/

namespace EndpointStubs.Text

theorem not_mem_of_mem_pieces {sep : Char} {cs p : List Char} (h : p ∈ pieces sep cs) :
    sep ∉ p := by
  induction cs generalizing p with
  | nil =>
    simp only [pieces, List.mem_singleton] at h
    simp [h]
  | cons c cs ih =>
    obtain ⟨q, qs, hq⟩ := List.exists_cons_of_ne_nil (pieces_ne_nil sep cs)
    simp only [pieces, hq] at h
    rw [hq] at ih
    split at h
    · rcases List.mem_cons.1 h with rfl | h
      · simp
      · exact ih h
    · rename_i hc
      rcases List.mem_cons.1 h with rfl | h
      · simp only [List.mem_cons, not_or]
        exact ⟨fun e => hc e.symm, ih List.mem_cons_self⟩
      · exact ih (List.mem_cons_of_mem _ h)

theorem pieces_of_not_mem {sep : Char} {cs : List Char} (h : sep ∉ cs) : pieces sep cs = [cs] := by
  induction cs with
  | nil => rfl
  | cons c cs ih =>
    simp only [List.mem_cons, not_or] at h
    simp only [pieces, if_neg (Ne.symm h.1), ih h.2]

/-- A text without separator in front joins the first piece. -/
theorem pieces_append_of_not_mem {sep : Char} {a : List Char} (h : sep ∉ a) (b : List Char) :
    pieces sep (a ++ b) = match pieces sep b with
      | [] => [a]
      | p :: ps => (a ++ p) :: ps := by
  obtain ⟨p, ps, hp⟩ := List.exists_cons_of_ne_nil (pieces_ne_nil sep b)
  rw [hp]
  induction a with
  | nil => exact hp
  | cons c a ih =>
    simp only [List.mem_cons, not_or] at h
    simp only [List.cons_append, pieces, if_neg (Ne.symm h.1), ih h.2]

theorem pieces_append (sep : Char) (a b : List Char) :
    pieces sep (a ++ sep :: b) = pieces sep a ++ pieces sep b := by
  induction a with
  | nil => simp [pieces]
  | cons c a ih =>
    obtain ⟨p, ps, hp⟩ := List.exists_cons_of_ne_nil (pieces_ne_nil sep a)
    simp only [List.cons_append, pieces, ih, hp]
    split <;> rfl

theorem pieces_replicate_append (sep : Char) (n : Nat) (cs : List Char) :
    pieces sep (List.replicate n sep ++ cs) = List.replicate n [] ++ pieces sep cs := by
  induction n with
  | zero => rfl
  | succ n ih => simp [List.replicate_succ, pieces, ih]

theorem join_cons_of_ne_nil (sep p : List Char) {ps : List (List Char)} (h : ps ≠ []) :
    join sep (p :: ps) = p ++ sep ++ join sep ps := by
  cases ps with
  | nil => exact absurd rfl h
  | cons q ps => rfl

theorem pieces_join {sep : Char} {ps : List (List Char)} (hne : ps ≠ [])
    (h : ∀ p ∈ ps, sep ∉ p) : pieces sep (join [sep] ps) = ps := by
  induction ps with
  | nil => exact absurd rfl hne
  | cons p ps ih =>
    have hp : sep ∉ p := h p List.mem_cons_self
    by_cases hps : ps = []
    · subst hps
      exact pieces_of_not_mem hp
    · rw [join_cons_of_ne_nil _ _ hps, List.append_assoc, List.singleton_append, pieces_append,
        pieces_of_not_mem hp, ih hps fun q hq => h q (List.mem_cons_of_mem _ hq)]
      rfl

theorem join_isPrefix (sep : List Char) {ps qs : List (List Char)} (h : ps <+: qs) :
    join sep ps <+: join sep qs := by
  induction ps generalizing qs with
  | nil => exact List.nil_prefix
  | cons p ps ih =>
    obtain ⟨rest, rfl⟩ := h
    rw [List.cons_append]
    by_cases hps : ps = []
    · subst hps
      by_cases hr : rest = []
      · subst hr; exact List.prefix_refl _
      · rw [List.nil_append, join_cons_of_ne_nil _ _ hr, List.append_assoc]
        exact List.prefix_append _ _
    · rw [join_cons_of_ne_nil _ _ hps, join_cons_of_ne_nil _ _ (by simp [hps])]
      exact (List.prefix_append_right_inj _).2 (ih (List.prefix_append _ _))

theorem join_append (sep : List Char) {ps qs : List (List Char)} (hp : ps ≠ []) (hq : qs ≠ []) :
    join sep (ps ++ qs) = join sep ps ++ sep ++ join sep qs := by
  induction ps with
  | nil => exact absurd rfl hp
  | cons p ps ih =>
    by_cases hps : ps = []
    · subst hps
      rw [List.singleton_append, join_cons_of_ne_nil _ _ hq]
      rfl
    · rw [List.cons_append, join_cons_of_ne_nil _ _ (by simp [hps]), join_cons_of_ne_nil _ _ hps,
        ih hps]
      simp only [List.append_assoc]

/-- A character is a separator or stands in a piece. -/
theorem mem_pieces_of_mem {sep c : Char} {cs : List Char} (h : c ∈ cs) :
    c = sep ∨ ∃ p ∈ pieces sep cs, c ∈ p := by
  induction cs with
  | nil => cases h
  | cons d cs ih =>
    obtain ⟨p, ps, hp⟩ := List.exists_cons_of_ne_nil (pieces_ne_nil sep cs)
    rw [hp] at ih
    rw [pieces, hp]
    by_cases hd : d = sep
    · rw [if_pos hd]
      rcases List.mem_cons.1 h with rfl | h
      · exact .inl hd
      · rcases ih h with hc | ⟨q, hq, hcq⟩
        · exact .inl hc
        · exact .inr ⟨q, List.mem_cons_of_mem _ hq, hcq⟩
    · rw [if_neg hd]
      rcases List.mem_cons.1 h with rfl | h
      · exact .inr ⟨c :: p, List.mem_cons_self, List.mem_cons_self⟩
      · rcases ih h with hc | ⟨q, hq, hcq⟩
        · exact .inl hc
        · rcases List.mem_cons.1 hq with rfl | hq
          · exact .inr ⟨d :: q, List.mem_cons_self, List.mem_cons_of_mem _ hcq⟩
          · exact .inr ⟨q, List.mem_cons_of_mem _ hq, hcq⟩

/-! ## The last separator -/

theorem splitAtLast_of_not_mem {sep : Char} {cs : List Char} (h : sep ∉ cs) :
    splitAtLast sep cs = none := by
  induction cs with
  | nil => rfl
  | cons c cs ih =>
    simp only [List.mem_cons, not_or] at h
    simp only [splitAtLast, ih h.2, if_neg (Ne.symm h.1)]

theorem splitAtLast_append {sep : Char} {b : List Char} (h : sep ∉ b) (a : List Char) :
    splitAtLast sep (a ++ sep :: b) = some (a, b) := by
  induction a with
  | nil => simp only [List.nil_append, splitAtLast, splitAtLast_of_not_mem h, if_pos]
  | cons c a ih => simp only [List.cons_append, splitAtLast, ih]

theorem not_mem_of_splitAtLast_eq_none {sep : Char} {cs : List Char}
    (h : splitAtLast sep cs = none) : sep ∉ cs := by
  intro hm
  obtain ⟨a, b, hcs, hb⟩ := List.eq_append_cons_of_mem (List.mem_reverse.2 hm)
  have hcs : cs = b.reverse ++ sep :: a.reverse := by
    rw [← List.reverse_reverse cs, hcs]
    simp
  rw [hcs, splitAtLast_append (by simpa using hb)] at h
  cases h

theorem not_mem_of_splitAtLast {sep : Char} {cs a b : List Char}
    (h : splitAtLast sep cs = some (a, b)) : sep ∉ b := by
  induction cs generalizing a with
  | nil => cases h
  | cons c cs ih =>
    simp only [splitAtLast] at h
    split at h
    · rename_i a' b' h'
      obtain ⟨-, rfl⟩ := Prod.mk.inj (Option.some.inj h)
      exact ih h'
    · rename_i hnone
      split at h
      · obtain ⟨-, rfl⟩ := Prod.mk.inj (Option.some.inj h)
        exact not_mem_of_splitAtLast_eq_none hnone
      · cases h

end EndpointStubs.Text
