import Mathlib.Data.List.Lex
import Mathlib.Data.String.Basic
import EndpointStubs.Text.Order

/-!
# The order of lists of texts

The order is total, and it is the order of bytes: an encoded character is less than another one
at its first different byte, whatever follows, since the first byte tells the length and grows
with it.

    s < t → bytes s < bytes t
    inOrder as bs → as ≠ bs → as.map bytes < bs.map bytes
-/

namespace EndpointStubs.Text

/-! ## A total order -/

theorem inOrder_trans {as bs cs : List String} (h : inOrder as bs = true)
    (k : inOrder bs cs = true) : inOrder as cs = true := by
  induction as generalizing bs cs with
  | nil => rfl
  | cons a as ih =>
    cases bs with
    | nil => cases h
    | cons b bs =>
      cases cs with
      | nil => cases k
      | cons c cs =>
        simp only [inOrder] at h k ⊢
        by_cases hab : a = b
        · subst hab
          rw [if_pos rfl] at h
          by_cases hac : a = c
          · subst hac
            rw [if_pos rfl] at k ⊢
            exact ih h k
          · rw [if_neg hac] at k ⊢
            exact k
        · rw [if_neg hab, decide_eq_true_eq] at h
          by_cases hbc : b = c
          · subst hbc
            rw [if_neg hab, decide_eq_true_eq]
            exact h
          · rw [if_neg hbc, decide_eq_true_eq] at k
            have hac : a < c := String.lt_trans h k
            rw [if_neg hac.ne, decide_eq_true_eq]
            exact hac

theorem inOrder_total (as bs : List String) : (inOrder as bs || inOrder bs as) = true := by
  induction as generalizing bs with
  | nil => rfl
  | cons a as ih =>
    cases bs with
    | nil => rfl
    | cons b bs =>
      simp only [inOrder]
      by_cases hab : a = b
      · subst hab
        rw [if_pos rfl, if_pos rfl]
        exact ih bs
      · rw [if_neg hab, if_neg (Ne.symm hab)]
        rcases lt_trichotomy a b with h | h | h
        · simp [h]
        · exact absurd h hab
        · simp [h]

theorem eq_of_inOrder {as bs : List String} (h : inOrder as bs = true)
    (k : inOrder bs as = true) : as = bs := by
  induction as generalizing bs with
  | nil =>
    cases bs with
    | nil => rfl
    | cons b bs => cases k
  | cons a as ih =>
    cases bs with
    | nil => cases h
    | cons b bs =>
      simp only [inOrder] at h k
      by_cases hab : a = b
      · subst hab
        rw [if_pos rfl] at h k
        rw [ih h k]
      · rw [if_neg hab, decide_eq_true_eq] at h
        rw [if_neg (Ne.symm hab), decide_eq_true_eq] at k
        exact absurd k (String.lt_asymm h)

/-! ## The order of bytes -/

def bytes (s : String) : List UInt8 := s.toUTF8.data.toList

theorem bytes_ofList (cs : List Char) :
    bytes (String.ofList cs) = cs.flatMap String.utf8EncodeChar := by
  rw [bytes, String.toUTF8, String.toByteArray_ofList, List.utf8Encode, List.data_toByteArray]

theorem ofNat_cons_lt {m n : Nat} (hm : m < 256) (hn : n < 256) (x y : List UInt8) :
    UInt8.ofNat m :: x < UInt8.ofNat n :: y ↔ m < n ∨ m = n ∧ x < y := by
  rw [List.cons_lt_cons_iff, UInt8.lt_iff_toNat_lt, ← UInt8.toNat_inj, UInt8.toNat_ofNat',
    UInt8.toNat_ofNat', Nat.mod_eq_of_lt hm, Nat.mod_eq_of_lt hn]

/-- Where characters differ, their bytes decide. -/
theorem utf8EncodeChar_append_lt {a b : Char} (h : a < b) (x y : List UInt8) :
    String.utf8EncodeChar a ++ x < String.utf8EncodeChar b ++ y := by
  have hv : a.val.toNat < b.val.toNat := h
  have hb : b.val.toNat < 1114112 := by
    rcases b.valid with hb | hb
    · exact hb.trans (by decide)
    · exact hb.2
  unfold String.utf8EncodeChar
  generalize a.val.toNat = m at hv
  generalize b.val.toNat = n at hv hb
  -- The digits to base 64 are the same for every length, so the lengths can be compared.
  have hm₁ : m / 64 / 64 = m / 4096 := Nat.div_div_eq_div_mul m 64 64
  have hm₂ : m / 4096 / 64 = m / 262144 := Nat.div_div_eq_div_mul m 4096 64
  have hm₃ : m / 262144 % 8 = m / 262144 := Nat.mod_eq_of_lt (by omega)
  have hn₁ : n / 64 / 64 = n / 4096 := Nat.div_div_eq_div_mul n 64 64
  have hn₂ : n / 4096 / 64 = n / 262144 := Nat.div_div_eq_div_mul n 4096 64
  have hn₃ : n / 262144 % 8 = n / 262144 := Nat.mod_eq_of_lt (by omega)
  simp only [hm₃, hn₃]
  split_ifs <;>
    simp (disch := omega) only [List.cons_append, List.nil_append, ofNat_cons_lt] <;> omega

theorem flatMap_utf8EncodeChar_lt {as bs : List Char} (h : as < bs) :
    as.flatMap String.utf8EncodeChar < bs.flatMap String.utf8EncodeChar := by
  induction as generalizing bs with
  | nil =>
    cases bs with
    | nil => exact absurd h (List.not_lt_nil [])
    | cons b bs =>
      obtain ⟨x, xs, hx⟩ := List.exists_cons_of_ne_nil (String.utf8EncodeChar_ne_nil (c := b))
      rw [List.flatMap_nil, List.flatMap_cons, hx, List.cons_append]
      exact List.nil_lt_cons x _
  | cons a as ih =>
    cases bs with
    | nil => exact absurd h (List.not_lt_nil _)
    | cons b bs =>
      rw [List.flatMap_cons, List.flatMap_cons]
      rcases List.cons_lt_cons_iff.1 h with hab | ⟨rfl, hrest⟩
      · exact utf8EncodeChar_append_lt hab _ _
      · exact List.append_left_lt (ih hrest)

theorem bytes_lt_bytes {s t : String} (h : s < t) : bytes s < bytes t := by
  rw [← String.ofList_toList (s := s), ← String.ofList_toList (s := t), bytes_ofList, bytes_ofList]
  exact flatMap_utf8EncodeChar_lt (String.lt_iff_toList_lt.1 h)

/-- Different lists in order are in the order of their bytes, text by text. -/
theorem map_bytes_lt {as bs : List String} (h : inOrder as bs = true) (hne : as ≠ bs) :
    as.map bytes < bs.map bytes := by
  induction as generalizing bs with
  | nil =>
    cases bs with
    | nil => exact absurd rfl hne
    | cons b bs => exact List.nil_lt_cons _ _
  | cons a as ih =>
    cases bs with
    | nil => cases h
    | cons b bs =>
      simp only [inOrder] at h
      rw [List.map_cons, List.map_cons, List.cons_lt_cons_iff]
      by_cases hab : a = b
      · subst hab
        rw [if_pos rfl] at h
        exact .inr ⟨rfl, ih h fun hrest => hne (by rw [hrest])⟩
      · rw [if_neg hab, decide_eq_true_eq] at h
        exact .inl (bytes_lt_bytes h)

end EndpointStubs.Text
