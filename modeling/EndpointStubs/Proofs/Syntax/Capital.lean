import EndpointStubs.Proofs.Syntax.Items
import EndpointStubs.Text.Case

/-!
# Words in capitals

The upper-case form of a character that may start a word is a word, however long it is, so a
capitalized word is a word again. It need not be a name: `self` becomes a keyword. A raw word
becomes no word at all, as its mark is only known in lower case.

    capitalize "list" = "List"    capitalize "self" = "Self"    capitalize "r#type" = "R#type"
-/

namespace EndpointStubs.Syntax

open Unicode

/-! ## Upper-case forms -/

/-- Code points of the range are characters, and beyond ASCII. -/
def isProperRange (p : Nat × Nat) : Bool :=
  Nat.ble 0x80 p.1 && (Nat.blt p.2 0xd800 || (Nat.blt 0xdfff p.1 && Nat.blt p.2 0x110000))

theorem isProperRange_of_mem {p : Nat × Nat} (h : p ∈ identifierStartRanges) :
    isProperRange p = true := by
  have hall : identifierStartRanges.all isProperRange = true := by decide +kernel
  exact List.all_eq_true.1 hall p h

/-- Every character of the table can start a word. -/
theorem isWordStart_of_mem {p : Nat × Nat} (hp : p ∈ identifierStartRanges) {n : Nat}
    (hn : p.1 ≤ n ∧ n ≤ p.2) : isWordStart (Char.ofNat n) = true := by
  have hproper := isProperRange_of_mem hp
  simp only [isProperRange, Nat.blt_eq, Bool.and_eq_true, Bool.or_eq_true, Nat.ble_eq] at hproper
  have hvalid : n.isValidChar := by
    unfold Nat.isValidChar
    omega
  have hchar : (Char.ofNat n).toNat = n := by
    rw [Char.ofNat, dif_pos hvalid]
    rfl
  have hcontains : identifierStartRanges.contains n = true := Ranges.contains_iff.2 ⟨p, hp, hn⟩
  rw [isWordStart, isIdentifierStart, hchar, if_neg (by omega), hcontains, Bool.or_true]

/-- All of a run goes into one range, or each start of a word in it goes to another. -/
def keepsStarts (r : CaseRun) : Bool :=
  (identifierStartRanges.any fun p =>
    Nat.ble p.1 (r.first + r.shift).toNat && Nat.ble (r.last + r.shift).toNat p.2) ||
  (List.range (r.last + 1 - r.first)).all fun i =>
    !(r.holds (r.first + i) && isWordStart (Char.ofNat (r.first + i))) ||
      isWordStart (Char.ofNat ((r.first + i : Nat) + r.shift).toNat)

theorem isWordStart_of_keepsStarts {r : CaseRun} (hr : keepsStarts r = true) {n : Nat}
    (hn : r.holds n = true) (hstart : isWordStart (Char.ofNat n) = true) :
    isWordStart (Char.ofNat (n + r.shift).toNat) = true := by
  have hbounds : r.first ≤ n ∧ n ≤ r.last := by
    simp only [CaseRun.holds, Bool.and_eq_true, decide_eq_true_eq] at hn
    exact hn.1
  rw [keepsStarts, Bool.or_eq_true] at hr
  rcases hr with hrange | heach
  · obtain ⟨p, hp, hle⟩ := List.any_eq_true.1 hrange
    simp only [Bool.and_eq_true, Nat.ble_eq] at hle
    exact isWordStart_of_mem hp (by omega)
  · have hi := List.all_eq_true.1 heach (n - r.first) (List.mem_range.2 (by omega))
    rw [Nat.add_sub_cancel' hbounds.1, hn, hstart] at hi
    simpa using hi

theorem keepsStarts_of_mem {r : CaseRun} (h : r ∈ upperCaseRuns) : keepsStarts r = true := by
  have hall : upperCaseRuns.all keepsStarts = true := by decide +kernel
  exact List.all_eq_true.1 hall r h

theorem isWord_of_mem_upperCaseSequences {s : Nat × List Nat} (h : s ∈ upperCaseSequences) :
    isWord (s.2.map Char.ofNat) = true := by
  have hall : (upperCaseSequences.all fun s => isWord (s.2.map Char.ofNat)) = true := by
    decide +kernel
  exact List.all_eq_true.1 hall s h

theorem isWord_singleton {c : Char} : isWord [c] = isWordStart c := by
  simp [isWord]

/-- The upper-case form of what starts a word is a word. -/
theorem isWord_upperCase {c : Char} (h : isWordStart c = true) : isWord (upperCase c) = true := by
  unfold upperCase
  split
  · rename_i hlow
    have hascii : ((List.range 0x80).all fun n =>
        !isWordStart (Char.ofNat n) || isWordStart (Char.ofNat n).toUpper) = true := by
      decide +kernel
    have hc := List.all_eq_true.1 hascii c.toNat (List.mem_range.2 hlow)
    rw [Char.ofNat_toNat, h] at hc
    rw [isWord_singleton]
    simpa using hc
  · unfold caseForm
    split
    · rename_i s hs
      exact isWord_of_mem_upperCaseSequences (List.mem_of_find?_eq_some hs)
    · split
      · rename_i r hr
        have hkeeps := keepsStarts_of_mem (List.mem_of_find?_eq_some hr)
        have hholds : r.holds c.toNat = true := by
          simpa using List.find?_some hr
        rw [isWord_singleton]
        exact isWordStart_of_keepsStarts hkeeps hholds (by rwa [Char.ofNat_toNat])
      · rw [isWord_singleton, h]

/-! ## Words -/

/-- A capitalized word is a word. -/
theorem isWord_capitalizeChars {cs : List Char} (h : isWord cs = true) :
    isWord (Text.capitalizeChars cs) = true := by
  cases cs with
  | nil => cases h
  | cons c cs =>
    rw [isWord, Bool.and_eq_true] at h
    have hupper := isWord_upperCase h.1
    rw [Text.capitalizeChars]
    cases hd : upperCase c with
    | nil =>
      rw [hd] at hupper
      cases hupper
    | cons d ds =>
      rw [hd, isWord, Bool.and_eq_true] at hupper
      rw [List.cons_append, isWord, List.all_append, hupper.1, hupper.2, h.2]
      rfl

/-! ## Words with an ending -/

theorem isWord_append {cs ds : List Char} (hcs : isWord cs = true)
    (hds : ds.all isWordContinue = true) : isWord (cs ++ ds) = true := by
  cases cs with
  | nil => cases hcs
  | cons c cs =>
    rw [isWord, Bool.and_eq_true] at hcs
    rw [List.cons_append, isWord, List.all_append, hcs.1, hcs.2, hds]
    rfl

/-- A text is no keyword if no keyword ends like it. -/
theorem append_not_mem_keywords {ending : String}
    (h : Ahead.keywords.all (fun k => !ending.toList.isSuffixOf k.toList) = true) (s : String) :
    s ++ ending ∉ Ahead.keywords := by
  intro hm
  have hnot := List.all_eq_true.1 h _ hm
  have hends : ending.toList.isSuffixOf (s ++ ending).toList = true := by
    rw [List.isSuffixOf_iff_suffix, String.toList_append]
    exact List.suffix_append _ _
  rw [hends] at hnot
  cases hnot

/-- Capitals change the first character only, so what follows stays. -/
theorem capitalize_append {s : String} (hs : s ≠ "") (t : String) :
    Text.capitalize (s ++ t) = Text.capitalize s ++ t := by
  rw [← String.toList_inj]
  simp only [Text.capitalize, String.toList_append, String.toList_ofList]
  cases hc : s.toList with
  | nil => exact absurd (String.toList_inj.1 (hc.trans String.toList_empty.symm)) hs
  | cons c cs => simp [Text.capitalizeChars]

namespace Word

open Lexer

/-- The word with more letters behind it. -/
def append (w : Word) (s : String) (hs : s.toList.all isWordContinue = true) : Word where
  raw := w.raw
  letters := w.letters ++ s
  legal := by
    rw [String.toList_append]
    exact isWord_append w.legal hs

theorem text_append (w : Word) {s : String} (hs : s.toList.all isWordContinue = true) :
    (w.append s hs).text = w.text ++ s := by
  rw [← String.toList_inj, String.toList_append, toList_text, toList_text, append,
    String.toList_append, List.append_assoc]

/-! ## Words in capitals -/

def capitalTrees (w : Word) : List TokenTree :=
  if w.raw then [.word (.of "R"), .punct '#' false, .word { w with raw := false }]
  else [.word (.of (Text.capitalize w.letters) (by
    rw [Text.capitalize, String.toList_ofList]
    exact isWord_capitalizeChars w.legal))]

theorem reads_mark {cs : List Char} (hslash : cs.head? ≠ some '/')
    (hsign : isSign cs.head? = false) :
    Reads ('R' :: '#' :: cs) [.word (.of "R"), .punct '#' false] cs := by
  have hdrop : dropLiteral ('R' :: '#' :: cs) = none :=
    dropLiteral_eq_none (by decide) (textLiteral_eq_none (by decide)) nofun nofun
  have hcut : cutToken ('R' :: '#' :: cs) = some (.word (.of "R"), '#' :: cs) := by
    rw [cutToken_of_no_literal (by decide) hdrop]
    rfl
  have hletter : Reads ('R' :: '#' :: cs) [.word (.of "R")] ('#' :: cs) :=
    .token (by decide) (by decide) rfl hcut (by simp)
  have hmark : Reads ('#' :: cs) [.punct '#' (isSign cs.head?)] cs :=
    .punct (by decide) (by decide) hslash
  rw [hsign] at hmark
  exact hletter.append hmark

/-- A word in capitals is read as its trees. -/
theorem spells_capital (w : Word) : Spells (Text.capitalize w.text).toList w.capitalTrees := by
  intro rest hrest
  rw [Text.capitalize, String.toList_ofList, toList_text]
  unfold capitalTrees
  split
  · obtain ⟨c, cs, hl, hc, -⟩ := w.exists_letters
    obtain ⟨hascii, hsign⟩ := ne_of_isWordStart hc
    have hword : Reads (w.letters.toList ++ rest) [.word { w with raw := false }] rest := by
      simpa [of] using Reads.word w.legal hrest
    have hhead : (w.letters.toList ++ rest).head? = some c := by rw [hl]; rfl
    have hmark : Reads ('R' :: '#' :: (w.letters.toList ++ rest))
        [.word (.of "R"), .punct '#' false] (w.letters.toList ++ rest) := by
      refine reads_mark ?_ ?_
      · rw [hhead]
        rintro ⟨⟩
        exact hascii (by decide)
      · simpa [hhead, isSign] using hsign
    exact hmark.append hword
  · have hcapital := Reads.word (isWord_capitalizeChars w.legal) hrest
    simpa [of, Text.capitalize] using hcapital

/-- A word in capitals is a name, unless it is raw or becomes a keyword. -/
theorem isName_capital_iff (w : Word) : IsName (Text.capitalize w.text) ↔
    w.raw = false ∧ Text.capitalize w.letters ∉ Ahead.keywords := by
  cases hraw : w.raw with
  | false =>
    have htext : w.text = w.letters := by rw [text, hraw]; rfl
    rw [htext]
    refine ⟨fun h => ⟨rfl, h.notKeyword⟩, fun h => ⟨?_, h.2⟩⟩
    rw [Text.capitalize, String.toList_ofList]
    exact isWord_capitalizeChars w.legal
  | true =>
    have hmark : isWord (Text.capitalize w.text).toList = false := by
      rw [Text.capitalize, String.toList_ofList, toList_text, hraw]
      rfl
    refine ⟨fun h => ?_, fun h => Bool.noConfusion h.1⟩
    have hword := h.word
    rw [hmark] at hword
    cases hword

/-- In capitals, a word names a function if it is a name then. -/
theorem namesFunction_capital (w : Word) (h : IsName (Text.capitalize w.text)) :
    NamesFunction true w.capitalTrees := by
  obtain ⟨hraw, hkeyword⟩ := w.isName_capital_iff.1 h
  rw [capitalTrees, if_neg (by rw [hraw]; decide)]
  exact namesFunction_word hkeyword

/-- In capitals, a word that is no name then names no function. -/
theorem namesFunction_capital_false (w : Word) (h : ¬IsName (Text.capitalize w.text)) :
    NamesFunction false w.capitalTrees := by
  rw [isName_capital_iff, not_and] at h
  unfold capitalTrees
  split
  · exact namesFunction_marked (by decide) _
  · rename_i hraw
    exact namesFunction_keyword (not_not.1 (h (by simpa using hraw)))

/-- With an ending that no keyword has, a name stays a name. -/
theorem isName_capital_append {w : Word} {s : String} (hs : s.toList.all isWordContinue = true)
    (hends : Ahead.keywords.all (fun k => !s.toList.isSuffixOf k.toList) = true)
    (h : IsName (Text.capitalize w.text)) : IsName (Text.capitalize (w.append s hs).text) := by
  rw [text_append, capitalize_append w.text_ne_empty]
  refine ⟨?_, append_not_mem_keywords hends _⟩
  rw [String.toList_append]
  exact isWord_append h.word hs

end Word

end EndpointStubs.Syntax
