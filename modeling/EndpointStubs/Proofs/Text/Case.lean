import EndpointStubs.Text.Case

/-!
# Capitalized texts

No character vanishes in capitals, as no upper-case form is empty. So only the empty text is empty
when it is capitalized.
-/

namespace EndpointStubs

namespace Unicode

theorem caseForm_ne_nil (runs : List CaseRun) {sequences : List (Nat × List Nat)}
    (h : ∀ s ∈ sequences, s.2 ≠ []) (c : Char) : caseForm runs sequences c ≠ [] := by
  unfold caseForm
  split
  · rename_i s hs
    intro hnil
    exact h s (List.mem_of_find?_eq_some hs) (List.map_eq_nil_iff.1 hnil)
  · split
    · exact List.cons_ne_nil _ _
    · exact List.cons_ne_nil _ _

theorem upperCase_ne_nil (c : Char) : upperCase c ≠ [] := by
  have hsequences : ∀ s ∈ upperCaseSequences, s.2 ≠ [] := by decide +kernel
  unfold upperCase
  split
  · exact List.cons_ne_nil _ _
  · exact caseForm_ne_nil _ hsequences c

end Unicode

theorem Text.capitalize_eq_empty_iff {s : String} : capitalize s = "" ↔ s = "" := by
  unfold capitalize
  cases hs : s.toList with
  | nil =>
    have hempty : s = "" := by simpa using hs
    exact iff_of_true rfl hempty
  | cons c cs =>
    have hne : s ≠ "" := by
      rintro rfl
      cases hs
    refine iff_of_false ?_ hne
    intro h
    have hchars : Unicode.upperCase c ++ cs = [] := by simpa [capitalizeChars] using h
    exact Unicode.upperCase_ne_nil c (List.append_eq_nil_iff.1 hchars).1

end EndpointStubs
