import EndpointStubs.Text.Quoted
import Mathlib.Data.Nat.Digits.Defs

/-!
# Quoted texts are read back

What is written between quotes is read back as it was, and reading stops at the closing quote,
whatever follows.

    encode s = '"' :: cs  →  read (cs ++ rest) = some (s, rest)
    IsQuoted cs s         →  cs = '"' :: body, and read (body ++ rest) = some (s, rest)
-/

namespace EndpointStubs.Text.Quoted

theorem readFrom_next {f : Form} {p q : Place} {c : Char} {yield cs : List Char}
    (h : f.step p c = .next q yield) :
    f.readFrom p (c :: cs) = (f.readFrom q cs).map fun r => (yield ++ r.1, r.2) := by
  rw [Form.readFrom, h]

theorem readFrom_silent {f : Form} {p q : Place} {c : Char} {cs : List Char}
    (h : f.step p c = .next q []) :
    f.readFrom p (c :: cs) = f.readFrom q cs := by
  rw [readFrom_next h]
  exact congrFun Option.map_id _

/-! ## Code points -/

theorem hexDigit?_digitChar {d : Nat} (h : d < 16) : hexDigit? d.digitChar = some d := by
  decide +revert

/-- Digits in a row give their number, as long as there are six at most. -/
theorem readFrom_toDigits (n value count : Nat) (cs : List Char)
    (h : count + (Nat.toDigits 16 n).length ≤ 6) :
    Form.text.readFrom (.scalarDigits value count) (Nat.toDigits 16 n ++ cs) =
      Form.text.readFrom (.scalarDigits (value * 16 ^ (Nat.toDigits 16 n).length + n)
        (count + (Nat.toDigits 16 n).length)) cs := by
  have hstep (value count d : Nat) (hd : d < 16) (hc : count < 6) :
      Form.text.step (.scalarDigits value count) d.digitChar =
        .next (.scalarDigits (value * 16 + d) (count + 1)) [] := by
    simp [Form.step, Form.stepScalar, hexDigit?_digitChar hd, hc]
  induction n using Nat.strongRecOn generalizing cs with
  | ind n ih =>
    rcases Nat.lt_or_ge n 16 with hn | hn
    · rw [Nat.toDigits_of_lt_base hn] at h ⊢
      simp only [List.length_singleton, List.singleton_append, pow_one] at h ⊢
      rw [readFrom_silent (hstep _ _ _ hn (by omega))]
    · rw [Nat.toDigits_of_base_le (by decide) hn] at h ⊢
      simp only [List.length_append, List.length_singleton] at h ⊢
      rw [List.append_assoc, ih (n / 16) (by omega) _ (by omega), List.singleton_append,
        readFrom_silent (hstep _ _ _ (Nat.mod_lt _ (by decide)) (by omega))]
      congr 2
      rw [pow_succ, add_mul, mul_assoc, add_assoc, Nat.div_add_mod']

theorem length_toDigits_toNat_le (c : Char) : (Nat.toDigits 16 c.toNat).length ≤ 6 := by
  rw [Nat.length_toDigits_le_iff (by decide) (by decide)]
  have := c.valid
  simp only [UInt32.isValidChar, Nat.isValidChar] at this
  have : c.toNat < 0x110000 := by
    unfold Char.toNat
    omega
  omega

theorem charOf?_toNat (c : Char) : charOf? c.toNat = some c := by
  have h : c.toNat.isValidChar := c.valid
  rw [charOf?, dif_pos h]
  rfl

theorem readFrom_scalar (c : Char) (cs : List Char) :
    Form.text.readFrom .plain (scalar c ++ cs) =
      (Form.text.readFrom .plain cs).map fun r => (c :: r.1, r.2) := by
  have hpos : 0 < (Nat.toDigits 16 c.toNat).length := Nat.length_toDigits_pos
  have hclose : Form.text.step (.scalarDigits (0 * 16 ^ (Nat.toDigits 16 c.toNat).length + c.toNat)
      (0 + (Nat.toDigits 16 c.toNat).length)) '}' = .next .plain [c] := by
    have hdigit : hexDigit? '}' = none := by decide
    have hne : Nat.toDigits 16 c.toNat ≠ [] := List.length_pos_iff.1 hpos
    simp [Form.step, Form.stepScalar, hdigit, hne, charOf?_toNat, Form.yield, Form.text]
  simp only [scalar, List.cons_append, List.append_assoc]
  rw [readFrom_silent (q := .afterBackslash) rfl, readFrom_silent (q := .scalarOpen) rfl,
    readFrom_silent (q := .scalarDigits 0 0) rfl,
    readFrom_toDigits _ _ _ _ (by simpa using length_toDigits_toNat_le c), List.nil_append,
    readFrom_next hclose]
  rfl

/-! ## Whole texts -/

/-- What a character is written as is read as that character. -/
theorem readFrom_escape (c : Char) (cs : List Char) :
    Form.text.readFrom .plain (escape c ++ cs) =
      (Form.text.readFrom .plain cs).map fun r => (c :: r.1, r.2) := by
  have hpair (d e : Char) (h : Form.text.step .afterBackslash d = .next .plain [e]) :
      Form.text.readFrom .plain (['\\', d] ++ cs) =
        (Form.text.readFrom .plain cs).map fun r => (e :: r.1, r.2) := by
    simp only [List.cons_append, List.nil_append]
    rw [readFrom_silent (q := .afterBackslash) rfl, readFrom_next h]
    rfl
  unfold escape
  split_ifs with hnul htab hreturn hline hquote hhidden
  · exact hnul ▸ hpair _ _ rfl
  · exact htab ▸ hpair _ _ rfl
  · exact hreturn ▸ hpair _ _ rfl
  · exact hline ▸ hpair _ _ rfl
  · simp only [Bool.or_eq_true, decide_eq_true_eq] at hquote
    rcases hquote with rfl | rfl
    · exact hpair _ _ rfl
    · exact hpair _ _ rfl
  · exact readFrom_scalar c cs
  · simp only [Bool.or_eq_true, decide_eq_true_eq, not_or] at hquote
    have hstep : Form.text.step .plain c = .next .plain [c] := by
      simp [Form.step, Form.stepPlain, hquote.1, hquote.2, hreturn, Form.text]
    exact readFrom_next hstep

theorem readFrom_encode (s rest : List Char) :
    Form.text.readFrom .plain (s.flatMap escape ++ '"' :: rest) = some (s, rest) := by
  induction s with
  | nil => rfl
  | cons c s ih => rw [List.flatMap_cons, List.append_assoc, readFrom_escape, ih]; rfl

/-! ## One text, wherever it stands -/

/-- Reading that ends with the text ends there whatever follows. -/
theorem readFrom_append {f : Form} {p : Place} {cs s : List Char}
    (h : f.readFrom p cs = some (s, [])) (rest : List Char) :
    f.readFrom p (cs ++ rest) = some (s, rest) := by
  induction cs generalizing p s with
  | nil => cases h
  | cons c cs ih =>
    rw [List.cons_append]
    rw [Form.readFrom] at h ⊢
    cases hstep : f.step p c with
    | close =>
      simp only [hstep, Option.some.injEq, Prod.mk.injEq] at h
      obtain ⟨rfl, rfl⟩ := h
      rfl
    | refuse => simp only [hstep, reduceCtorEq] at h
    | next q yield =>
      simp only [hstep, Option.map_eq_some_iff, Prod.mk.injEq] at h ⊢
      obtain ⟨⟨t, u⟩, hread, rfl, rfl⟩ := h
      exact ⟨(t, rest), ih hread, rfl, rfl⟩

/-- A text between double quotes, which stands for `s` and ends at its end. -/
def IsQuoted (literal s : List Char) : Prop :=
  ∃ body, literal = '"' :: body ∧ read body = some (s, [])

theorem isQuoted_encode (s : List Char) : IsQuoted (encode s) s :=
  ⟨s.flatMap escape ++ ['"'], rfl, readFrom_encode s []⟩

/-- Characters that need no escape stand for themselves between quotes. -/
theorem isQuoted_of_plain {s : List Char} (h : ∀ c ∈ s, c ≠ '"' ∧ c ≠ '\\' ∧ c ≠ '\r') :
    IsQuoted ('"' :: (s ++ ['"'])) s := by
  refine ⟨s ++ ['"'], rfl, ?_⟩
  unfold read
  induction s with
  | nil => rfl
  | cons c s ih =>
    obtain ⟨hquote, hback, hreturn⟩ := h c List.mem_cons_self
    have hstep : Form.text.step .plain c = .next .plain [c] := by
      simp [Form.step, Form.stepPlain, hquote, hback, hreturn, Form.text]
    rw [List.cons_append, readFrom_next hstep, ih fun d hd => h d (List.mem_cons_of_mem _ hd)]
    rfl

end EndpointStubs.Text.Quoted
