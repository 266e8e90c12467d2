import EndpointStubs.Proofs.Text.Blank
import EndpointStubs.ResponseType

/-!
# What is left of a declared type

A declared type without the blanks in front is its response type followed by marks: blanks and `()`
in any order. The response type ends in neither, and only one text fits so. Stripping one `()` after
the other, with the blanks before it, comes to that text and stops there.

    d = blanks ++ r ++ marks, r bare  ↔  normalize d = r
    strip, strip, … from trim d       →  normalize d
-/

namespace EndpointStubs.ResponseType

open Text (isBlank trimStart trimEnd trim)

variable {cs ds m n r s : List Char} {c : Char}

/-! ## Marks -/

/-- Blanks and `()` in any order. -/
inductive IsMarks : List Char → Prop
  | nil : IsMarks []
  | blank {c : Char} {cs : List Char} (hc : isBlank c = true) (h : IsMarks cs) : IsMarks (c :: cs)
  | mark {cs : List Char} (h : IsMarks cs) : IsMarks ('(' :: ')' :: cs)

theorem IsMarks.append (hm : IsMarks m) (hn : IsMarks n) : IsMarks (m ++ n) := by
  induction hm with
  | nil => exact hn
  | blank hc _ ih => exact .blank hc ih
  | mark _ ih => exact .mark ih

theorem isMarks_of_blanks (h : ∀ c ∈ cs, isBlank c = true) : IsMarks cs := by
  induction cs with
  | nil => exact .nil
  | cons c cs ih =>
    have hcs := ih fun d hd => h d (List.mem_cons_of_mem c hd)
    exact .blank (h c List.mem_cons_self) hcs

/-- Marks do not start within a pair. -/
theorem not_isMarks_closing : ¬IsMarks (')' :: cs) := by
  intro h
  cases h with
  | blank hc _ => exact absurd hc (by decide)

/-! ## Bare texts -/

/-- Ends neither in a blank nor in `()`. -/
structure IsBare (r : List Char) : Prop where
  noBlank : ∀ s c, r = s ++ [c] → isBlank c = false
  noMark : ∀ s, r ≠ s ++ ['(', ')']

/-- A text that goes on with marks up to some marks is not bare where it goes on. -/
theorem IsBare.eq_nil (h : IsBare (r ++ s)) (hs : IsMarks (s ++ m)) (hm : IsMarks m) : s = [] := by
  generalize hsm : s ++ m = cs at hs
  -- The induction is on the marks; what was gone over joins the front.
  induction hs generalizing r s with
  | nil => exact (List.append_eq_nil_iff.1 hsm).1
  | @blank c cs hc hcs ih =>
    cases s with
    | nil => rfl
    | cons d s =>
      simp only [List.cons_append, List.cons.injEq] at hsm
      obtain ⟨rfl, hsm⟩ := hsm
      rw [List.append_cons] at h
      obtain rfl := ih h hsm
      rw [List.append_nil] at h
      rw [h.noBlank r d rfl] at hc
      cases hc
  | @mark cs hcs ih =>
    match s with
    | [] => rfl
    | [d] =>
      simp only [List.cons_append, List.nil_append, List.cons.injEq] at hsm
      obtain ⟨-, rfl⟩ := hsm
      exact absurd hm not_isMarks_closing
    | d :: e :: s =>
      simp only [List.cons_append, List.cons.injEq] at hsm
      obtain ⟨rfl, rfl, hsm⟩ := hsm
      rw [List.append_cons, List.append_cons] at h
      obtain rfl := ih h hsm
      exact absurd (by simp) (h.noMark r)

/-- A text is one way only a bare text and marks. -/
theorem IsBare.unique (hr : IsBare r) (hs : IsBare s) (hm : IsMarks m) (hn : IsMarks n)
    (h : r ++ m = s ++ n) : r = s := by
  rcases List.append_eq_append_iff.1 h with ⟨t, rfl, rfl⟩ | ⟨t, rfl, rfl⟩
  · rw [hs.eq_nil hm hn, List.append_nil]
  · rw [hr.eq_nil hn hm, List.append_nil]

/-! ## Dropping marks -/

theorem exists_marks_dropMarks (cs : List Char) :
    ∃ m, IsMarks m ∧ cs.reverse = (dropMarks cs).reverse ++ m := by
  fun_induction dropMarks cs with
  | case1 => exact ⟨[], .nil, rfl⟩
  | case2 cs ih =>
    obtain ⟨m, hm, hcs⟩ := ih
    exact ⟨m ++ ['(', ')'], hm.append (.mark .nil), by simp [hcs]⟩
  | case3 c cs _ hc ih =>
    obtain ⟨m, hm, hcs⟩ := ih
    exact ⟨m ++ [c], hm.append (.blank hc .nil), by simp [hcs]⟩
  | case4 c cs _ _ => exact ⟨[], .nil, by simp⟩

theorem isBare_dropMarks (cs : List Char) : IsBare (dropMarks cs).reverse := by
  fun_induction dropMarks cs with
  | case1 => exact ⟨by simp, by simp⟩
  | case2 cs ih => exact ih
  | case3 c cs _ _ ih => exact ih
  | case4 c cs hpair hc =>
    constructor
    · intro s d h
      obtain ⟨-, hd⟩ := List.append_inj' ((List.reverse_cons).symm.trans h) rfl
      obtain rfl := (List.cons.inj hd).1
      simpa using hc
    · intro s h
      have hcs : c :: cs = ')' :: '(' :: s.reverse := by simpa using congrArg List.reverse h
      obtain ⟨hc', hcs'⟩ := List.cons.inj hcs
      exact hpair _ hc' hcs'

theorem exists_marks_normalize (cs : List Char) :
    ∃ m, IsMarks m ∧ trimStart cs = normalize cs ++ m := by
  obtain ⟨m, hm, h⟩ := exists_marks_dropMarks (trimStart cs).reverse
  exact ⟨m, hm, by rw [← List.reverse_reverse (trimStart cs), h]; rfl⟩

theorem isBare_normalize (cs : List Char) : IsBare (normalize cs) := isBare_dropMarks _

theorem normalize_eq_iff :
    normalize cs = r ↔ (∃ m, IsMarks m ∧ trimStart cs = r ++ m) ∧ IsBare r := by
  constructor
  · rintro rfl
    exact ⟨exists_marks_normalize cs, isBare_normalize cs⟩
  · rintro ⟨⟨m, hm, h⟩, hr⟩
    obtain ⟨n, hn, h'⟩ := exists_marks_normalize cs
    exact (isBare_normalize cs).unique hr hn hm (h'.symm.trans h)

/-! ## Blanks in front -/

theorem trimStart_eq_self (h : cs.head?.any isBlank = false) : trimStart cs = cs := by
  cases cs with
  | nil => rfl
  | cons c cs => exact List.dropWhile_cons_of_neg (by simpa using h)

theorem head?_normalize (cs : List Char) : (normalize cs).head?.any isBlank = false := by
  obtain ⟨m, -, h⟩ := exists_marks_normalize cs
  cases hr : normalize cs with
  | nil => rfl
  | cons c r =>
    have hfront := List.head?_dropWhile_not isBlank cs
    have hdrop : cs.dropWhile isBlank = c :: r ++ m := by rw [← hr, ← h]; rfl
    rw [hdrop] at hfront
    simpa using hfront

/-- A bare text without a blank in front is left as it is. -/
theorem normalize_eq_self (h : cs.head?.any isBlank = false) (hbare : IsBare cs) :
    normalize cs = cs :=
  normalize_eq_iff.2 ⟨⟨[], .nil, by rw [trimStart_eq_self h, List.append_nil]⟩, hbare⟩

theorem normalize_normalize (cs : List Char) : normalize (normalize cs) = normalize cs :=
  normalize_eq_self (head?_normalize cs) (isBare_normalize cs)

/-! ## Stripping step by step -/

/-- Takes one `()` from the end, and the blanks before it. -/
def strip? (cs : List Char) : Option (List Char) := (['(', ')'].isSuffixOf? cs).map trimEnd

/-- Taking `()` from the end again and again comes to the second text, where none is left. -/
inductive Strips : List Char → List Char → Prop
  | done {cs : List Char} (h : strip? cs = none) : Strips cs cs
  | turn {cs ds r : List Char} (h : strip? cs = some ds) (hr : Strips ds r) : Strips cs r

theorem strip?_eq_some_iff : strip? cs = some ds ↔ ∃ s, cs = s ++ ['(', ')'] ∧ trimEnd s = ds := by
  simp only [strip?, Option.map_eq_some_iff, List.isSuffixOf?_eq_some_iff_append_eq,
    eq_comm (a := cs)]

/-- However long the text is, stripping comes to an end. -/
theorem exists_strips (cs : List Char) : ∃ r, Strips cs r := by
  cases h : strip? cs with
  | none => exact ⟨cs, .done h⟩
  | some ds =>
    obtain ⟨s, rfl, rfl⟩ := strip?_eq_some_iff.1 h
    have hlen : (trimEnd s).length < (s ++ ['(', ')']).length := by
      have := Text.length_trimEnd_le s
      simp only [List.length_append, List.length_cons, List.length_nil]
      omega
    obtain ⟨r, hr⟩ := exists_strips (trimEnd s)
    exact ⟨r, .turn h hr⟩
termination_by cs.length

theorem Strips.exists_marks (h : Strips cs r) (hcs : trimEnd cs = cs) :
    IsBare r ∧ ∃ m, IsMarks m ∧ cs = r ++ m := by
  induction h with
  | @done cs h =>
    refine ⟨⟨Text.trimEnd_eq_self_iff.1 hcs, fun s hs => ?_⟩, [], .nil, by simp⟩
    rw [strip?_eq_some_iff.2 ⟨s, hs, rfl⟩] at h
    cases h
  | @turn cs ds r h _ ih =>
    obtain ⟨s, rfl, rfl⟩ := strip?_eq_some_iff.1 h
    obtain ⟨hbare, m, hm, hs⟩ := ih (Text.trimEnd_trimEnd _)
    obtain ⟨b, hb, hsb⟩ := Text.exists_blanks s
    refine ⟨hbare, m ++ (b ++ ['(', ')']), ?_, ?_⟩
    · exact hm.append ((isMarks_of_blanks hb).append (.mark .nil))
    · calc s ++ ['(', ')'] = trimEnd s ++ (b ++ ['(', ')']) := by rw [← List.append_assoc, ← hsb]
        _ = r ++ (m ++ (b ++ ['(', ')'])) := by rw [hs, List.append_assoc]

theorem strips_normalize (cs : List Char) : Strips (trim cs) (normalize cs) := by
  obtain ⟨r, hr⟩ := exists_strips (trim cs)
  obtain ⟨hbare, m, hm, h⟩ := hr.exists_marks (Text.trimEnd_trimEnd _)
  obtain ⟨b, hb, hcs⟩ := Text.exists_blanks (trimStart cs)
  have hparts : trimStart cs = r ++ (m ++ b) := by
    rw [← List.append_assoc, ← h]
    exact hcs
  have hmarks : IsMarks (m ++ b) := hm.append (isMarks_of_blanks hb)
  rwa [normalize_eq_iff.2 ⟨⟨m ++ b, hmarks, hparts⟩, hbare⟩]

/-! ## Response types -/

/-- **What the response type is.** The one bare text that marks follow in the declared type, where
blanks in front do not count; it starts with no blank, stripping `()` step by step comes to it, and
it is its own response type. -/
theorem ofDeclared_is_bare_part (d : String) :
    (∀ r : String, ofDeclared d = r ↔
      (∃ m, IsMarks m ∧ trimStart d.toList = r.toList ++ m) ∧ IsBare r.toList) ∧
    (ofDeclared d).toList.head?.any isBlank = false ∧
    Strips (trim d.toList) (ofDeclared d).toList ∧
    ofDeclared (ofDeclared d) = ofDeclared d := by
  have hchars : (ofDeclared d).toList = normalize d.toList := String.toList_ofList
  refine ⟨fun r => ?_, ?_, ?_, ?_⟩
  · rw [← normalize_eq_iff, ← hchars, String.toList_inj]
  · rw [hchars]
    exact head?_normalize _
  · rw [hchars]
    exact strips_normalize _
  · rw [← String.toList_inj]
    unfold ofDeclared
    simp only [String.toList_ofList, normalize_normalize]

/-- An opening parenthesis that none closes stays. -/
example : ofDeclared " (() () " = "(" := by decide

end EndpointStubs.ResponseType
