import EndpointStubs.Unicode.Identifier

/-!
# Words

A word is an identifier or a keyword: a character that may start one, and others that may go on
with it. A raw word stands for an identifier whatever its letters are, and has a mark in front.

    w.text = letters    or    w.text = "r#" ++ letters
    w.text ≠ ""    '.' ∉ w.text
-/

namespace EndpointStubs.Syntax

def isWordStart (c : Char) : Bool := c = '_' || Unicode.isIdentifierStart c

def isWordContinue (c : Char) : Bool := c = '_' || Unicode.isIdentifierContinue c

/-- The letters of a word. -/
def isWord : List Char → Bool
  | [] => false
  | c :: cs => isWordStart c && cs.all isWordContinue

/-- An identifier or a keyword. -/
@[ext]
structure Word where
  raw : Bool
  letters : String
  legal : isWord letters.toList = true
  deriving DecidableEq, Repr

namespace Word

/-- A word without a mark; that a known text is one is computed. -/
def of (s : String) (h : isWord s.toList = true := by exact Eq.refl true) : Word := ⟨false, s, h⟩

/-- The word with the mark. -/
def asRaw (w : Word) : Word := { w with raw := true }

def text (w : Word) : String := if w.raw then "r#" ++ w.letters else w.letters

def startingWith (c : Char) (cs : List Char) (h : isWordStart c = true) : Word where
  raw := false
  letters := String.ofList (c :: cs.takeWhile isWordContinue)
  legal := by simp only [String.toList_ofList, isWord, h, List.all_takeWhile, Bool.and_self]

/-! ## Characters -/

theorem exists_letters (w : Word) : ∃ c cs, w.letters.toList = c :: cs ∧ isWordStart c = true ∧
    ∀ d ∈ cs, isWordContinue d = true := by
  have h := w.legal
  cases hl : w.letters.toList with
  | nil =>
    rw [hl] at h
    cases h
  | cons c cs =>
    rw [hl, isWord, Bool.and_eq_true, List.all_eq_true] at h
    exact ⟨c, cs, rfl, h.1, h.2⟩

theorem toList_text (w : Word) :
    w.text.toList = (if w.raw then ['r', '#'] else []) ++ w.letters.toList := by
  unfold text
  split
  · rw [String.toList_append]
    rfl
  · rfl

theorem text_ne_empty (w : Word) : w.text ≠ "" := by
  obtain ⟨c, cs, hl, -, -⟩ := w.exists_letters
  intro e
  have h := congrArg String.toList e
  rw [toList_text, hl] at h
  simp at h

/-- What the characters of words are not, and the mark does not hold, is in no word. -/
theorem not_mem_text {c : Char} (hmark : c ∉ ['r', '#']) (hstart : isWordStart c = false)
    (hcontinue : isWordContinue c = false) (w : Word) : c ∉ w.text.toList := by
  obtain ⟨d, cs, hl, hd, hcs⟩ := w.exists_letters
  rw [toList_text, hl, List.mem_append]
  rintro (h | h)
  · split at h
    · exact hmark h
    · cases h
  · rcases List.mem_cons.1 h with rfl | h
    · rw [hstart] at hd
      cases hd
    · rw [hcs c h] at hcontinue
      cases hcontinue

theorem dot_not_mem_text (w : Word) : '.' ∉ w.text.toList :=
  not_mem_text (by decide) (by decide) (by decide) w

end Word

end EndpointStubs.Syntax
