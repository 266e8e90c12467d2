import EndpointStubs.Proofs.Syntax.Lexing
import EndpointStubs.Proofs.Text.Blank

/-!
# Compact texts

Compacting keeps the words of a text and all characters but blanks, and leaves blanks only between
two words and after commas. What has its blanks there already stays as it is, so compacting twice
is compacting once.

    squeeze before cs is spaced after before      cs spaced after before → squeeze before cs = cs
    wordRuns (compact cs) = wordRuns cs           compact (compact cs) = compact cs
-/

namespace EndpointStubs.Syntax

variable {before : Option Char} {c : Char} {cs ds bs w : List Char}

/-! ## Characters of words -/

theorem isWordChar_of_isBlank (h : Text.isBlank c = true) : isWordChar c = false := by
  have hnone : Lexer.blankPoints.all (fun n => !isWordChar (Char.ofNat n)) = true := by
    decide +kernel
  have hmem : c.toNat ∈ Lexer.blankPoints :=
    Lexer.toNat_mem_blankPoints (by rw [Lexer.isBlank, h]; rfl)
  rw [← Char.ofNat_toNat c]
  simpa using List.all_eq_true.1 hnone _ hmem

theorem isWordChar_comma : isWordChar ',' = false := by decide +kernel

theorem isWordChar_space : isWordChar ' ' = false := isWordChar_of_isBlank (by decide)

theorem ne_of_isWordChar (h : isWordChar c = true) : c ≠ ' ' ∧ c ≠ ',' := by
  constructor
  · rintro rfl
    exact absurd h (by rw [isWordChar_space]; decide)
  · rintro rfl
    exact absurd h (by rw [isWordChar_comma]; decide)

/-! ## Runs of words -/

/-- The longest runs of characters of words, in order. -/
def wordRuns (cs : List Char) : List (List Char) :=
  (cs.splitOnP fun c => !isWordChar c).filter fun run => !run.isEmpty

@[simp]
theorem wordRuns_nil : wordRuns [] = [] := rfl

/-- Runs end at a character that is in no word. -/
theorem wordRuns_append_cons (h : isWordChar c = false) :
    wordRuns (cs ++ c :: ds) = wordRuns cs ++ wordRuns ds := by
  unfold wordRuns
  rw [List.splitOnP_append_cons cs ds (by simp [h]), List.filter_append]

theorem wordRuns_cons (h : isWordChar c = false) : wordRuns (c :: ds) = wordRuns ds := by
  rw [← List.nil_append (c :: ds), wordRuns_append_cons h, wordRuns_nil, List.nil_append]

theorem wordRuns_append_of_not_word (h : ∀ d ∈ ds, isWordChar d = false) :
    wordRuns (cs ++ ds) = wordRuns cs := by
  induction ds generalizing cs with
  | nil => rw [List.append_nil]
  | cons d ds ih =>
    have hds := fun e he => h e (List.mem_cons_of_mem d he)
    have hnil : wordRuns ds = [] := @ih [] hds
    rw [wordRuns_append_cons (h d List.mem_cons_self), hnil, List.append_nil]

/-- Squeezing keeps the runs. While a run goes on, what was gone over of it is in front. -/
theorem wordRuns_append_squeeze (hw : w ≠ [] → before.any isWordChar = true) :
    wordRuns (w ++ squeeze before cs) = wordRuns (w ++ cs) := by
  fun_induction squeeze before cs generalizing w with
  | case1 => rfl
  | case2 before cs hkeep ih =>
    rw [wordRuns_append_cons isWordChar_space, wordRuns_append_cons isWordChar_space]
    exact congrArg _ (ih (w := []) (absurd rfl))
  | case3 before cs hdrop ih =>
    rw [ih hw, wordRuns_append_cons isWordChar_space]
    by_cases hnil : w = []
    · subst hnil
      rfl
    · -- A run that goes on ends here, as no character of a word follows the blank.
      rw [hw hnil, Bool.true_and, Bool.not_eq_true] at hdrop
      cases cs with
      | nil => simp
      | cons d cs =>
        have hd : isWordChar d = false := by simpa using hdrop
        rw [wordRuns_append_cons hd, wordRuns_cons hd]
  | case4 before cs _ ih =>
    rw [wordRuns_append_cons isWordChar_comma, wordRuns_append_cons isWordChar_comma,
      wordRuns_cons isWordChar_space]
    exact congrArg _ (ih (w := []) (absurd rfl))
  | case5 before c cs _ _ ih =>
    cases hc : isWordChar c with
    | true =>
      rw [List.append_cons, List.append_cons w c cs]
      exact ih fun _ => by simp [hc]
    | false =>
      rw [wordRuns_append_cons hc, wordRuns_append_cons hc]
      exact congrArg _ (ih (w := []) (absurd rfl))

theorem wordRuns_compact (cs : List Char) : wordRuns (compact cs) = wordRuns cs := by
  obtain ⟨bs, hbs, h⟩ := Text.exists_blanks (squeeze none cs)
  calc wordRuns (compact cs) = wordRuns (compact cs ++ bs) :=
        (wordRuns_append_of_not_word fun b hb => isWordChar_of_isBlank (hbs b hb)).symm
    _ = wordRuns (squeeze none cs) := congrArg wordRuns h.symm
    _ = wordRuns cs := wordRuns_append_squeeze (w := []) (absurd rfl)

/-! ## Other characters -/

/-- Only blanks are taken out or put in. -/
theorem filter_squeeze (before : Option Char) (cs : List Char) :
    (squeeze before cs).filter (· ≠ ' ') = cs.filter (· ≠ ' ') := by
  fun_induction squeeze before cs with
  | case1 => rfl
  | case2 before cs _ ih => simpa using ih
  | case3 before cs _ ih => simpa using ih
  | case4 before cs _ ih => simpa using ih
  | case5 before c cs hc _ ih => simpa [hc] using ih

/-- Trimming before or after all blanks of one kind are left out. -/
theorem filter_trimEnd (cs : List Char) :
    (Text.trimEnd cs).filter (· ≠ ' ') = Text.trimEnd (cs.filter (· ≠ ' ')) := by
  induction cs using List.reverseRecOn with
  | nil => rfl
  | append_singleton cs c ih =>
    cases hc : Text.isBlank c with
    | true =>
      rw [Text.trimEnd_concat_blank hc, ih, List.filter_append, Text.trimEnd_append_blanks]
      intro d hd
      rw [List.mem_filter, List.mem_singleton] at hd
      rw [hd.1, hc]
    | false =>
      have hne : c ≠ ' ' := by
        rintro rfl
        cases hc
      have hlast : [c].filter (· ≠ ' ') = [c] := by simp [hne]
      rw [Text.trimEnd_concat_of_not_blank hc, List.filter_append, hlast,
        Text.trimEnd_concat_of_not_blank hc]

/-! ## Where blanks stand -/

/-- Right after `before` the text has no blank but those that keep two words apart, and one after
each comma. -/
inductive IsSpaced : Option Char → List Char → Prop
  | nil {before : Option Char} : IsSpaced before []
  | comma {before : Option Char} {cs : List Char} (h : IsSpaced (some ',') cs) :
    IsSpaced before (',' :: ' ' :: cs)
  | char {before : Option Char} {c : Char} {cs : List Char} (hblank : c ≠ ' ') (hcomma : c ≠ ',')
    (h : IsSpaced (some c) cs) : IsSpaced before (c :: cs)
  | between {before : Option Char} {c : Char} {cs : List Char}
    (hbefore : before.any isWordChar = true) (hc : isWordChar c = true)
    (h : IsSpaced (some c) cs) : IsSpaced before (' ' :: c :: cs)

theorem IsSpaced.head_ne (h : IsSpaced before cs) (hbefore : before.any isWordChar = false) :
    cs.head? ≠ some ' ' := by
  cases h with
  | nil => nofun
  | comma _ => simp
  | char hblank _ _ => simpa using hblank
  | between hword _ _ => rw [hbefore] at hword; cases hword

theorem IsSpaced.after_word (h : IsSpaced before (c :: cs)) (hc : isWordChar c = true) :
    IsSpaced (some c) cs := by
  obtain ⟨hblank, hcomma⟩ := ne_of_isWordChar hc
  cases h with
  | comma _ => exact absurd rfl hcomma
  | char _ _ h => exact h
  | between _ _ _ => exact absurd rfl hblank

theorem isSpaced_squeeze (before : Option Char) (cs : List Char) :
    IsSpaced before (squeeze before cs) := by
  fun_induction squeeze before cs with
  | case1 => exact .nil
  | case2 before cs hkeep ih =>
    rw [Bool.and_eq_true] at hkeep
    cases cs with
    | nil => cases hkeep.2
    | cons c cs =>
      have hc : isWordChar c = true := by simpa using hkeep.2
      obtain ⟨hblank, hcomma⟩ := ne_of_isWordChar hc
      rw [squeeze, if_neg hblank, if_neg hcomma] at ih ⊢
      exact .between hkeep.1 hc (ih.after_word hc)
  | case3 before cs _ ih => exact ih
  | case4 before cs _ ih => exact .comma ih
  | case5 before c cs hblank hcomma ih => exact .char hblank hcomma ih

theorem IsSpaced.squeeze_eq (h : IsSpaced before cs) : squeeze before cs = cs := by
  induction h with
  | nil => rfl
  | comma _ ih => simp [squeeze, isWordChar_comma, ih]
  | char hblank hcomma _ ih => rw [squeeze, if_neg hblank, if_neg hcomma, ih]
  | @between before c cs hbefore hc _ ih =>
    obtain ⟨hblank, hcomma⟩ := ne_of_isWordChar hc
    simp [squeeze, hbefore, hc, hblank, hcomma, ih]

theorem getLast?_or_some (cs : List Char) (c : Char) (before : Option Char) :
    cs.getLast?.or (some c) = (c :: cs).getLast?.or before := by
  rw [List.getLast?_cons]
  cases cs.getLast? <;> rfl

/-- A blank comes after a comma, or between two characters of words. -/
theorem IsSpaced.around_blank (h : IsSpaced before cs) {front back : List Char}
    (hcs : cs = front ++ ' ' :: back) : ∃ c, front.getLast?.or before = some c ∧
      (c = ',' ∨ isWordChar c = true ∧ back.head?.any isWordChar = true) := by
  induction h generalizing front with
  | nil => simp at hcs
  | @comma before cs h ih =>
    match front with
    | [] => simp at hcs
    | [d] =>
      obtain rfl := (List.cons.inj hcs).1
      exact ⟨',', rfl, .inl rfl⟩
    | [d, e] =>
      simp only [List.cons_append, List.nil_append, List.cons.injEq] at hcs
      exact absurd (congrArg List.head? hcs.2.2) (h.head_ne isWordChar_comma)
    | d :: e :: x :: front =>
      simp only [List.cons_append, List.cons.injEq] at hcs
      have hrest : cs = x :: front ++ ' ' :: back := hcs.2.2
      obtain ⟨y, hy, hword⟩ := ih hrest
      exact ⟨y, by simpa [List.getLast?_cons] using hy, hword⟩
  | @char before c cs hblank hcomma h ih =>
    cases front with
    | nil => exact absurd (List.cons.inj hcs).1 hblank
    | cons d front =>
      simp only [List.cons_append, List.cons.injEq] at hcs
      obtain ⟨rfl, hcs⟩ := hcs
      rw [← getLast?_or_some]
      exact ih hcs
  | @between before c cs hbefore hc h ih =>
    match front with
    | [] =>
      obtain rfl := (List.cons.inj hcs).2
      obtain ⟨x, rfl, hx⟩ := (Option.any_eq_true _ _).1 hbefore
      exact ⟨x, rfl, .inr ⟨hx, by simpa using hc⟩⟩
    | [d] =>
      simp only [List.cons_append, List.nil_append, List.cons.injEq] at hcs
      exact absurd hcs.2.1 (ne_of_isWordChar hc).1
    | d :: e :: front =>
      simp only [List.cons_append, List.cons.injEq] at hcs
      obtain ⟨rfl, rfl, hcs⟩ := hcs
      obtain ⟨x, hx, hword⟩ := ih hcs
      rw [getLast?_or_some front c before] at hx
      exact ⟨x, by simpa using hx, hword⟩

/-- One blank and no other comes after a comma. -/
theorem IsSpaced.after_comma (h : IsSpaced before cs) {front back : List Char}
    (hcs : cs = front ++ ',' :: back) : ∃ more, back = ' ' :: more ∧ more.head? ≠ some ' ' := by
  induction h generalizing front with
  | nil => simp at hcs
  | @comma before cs h ih =>
    match front with
    | [] => exact ⟨cs, (List.cons.inj hcs).2.symm, h.head_ne isWordChar_comma⟩
    | [d] => simp at hcs
    | d :: e :: front =>
      simp only [List.cons_append, List.cons.injEq] at hcs
      exact ih hcs.2.2
  | @char before c cs hblank hcomma h ih =>
    cases front with
    | nil => exact absurd (List.cons.inj hcs).1 hcomma
    | cons d front => exact ih (List.cons.inj hcs).2
  | @between before c cs hbefore hc h ih =>
    match front with
    | [] => simp at hcs
    | [d] =>
      simp only [List.cons_append, List.nil_append, List.cons.injEq] at hcs
      exact absurd hcs.2.1 (ne_of_isWordChar hc).2
    | d :: e :: front =>
      simp only [List.cons_append, List.cons.injEq] at hcs
      exact ih hcs.2.2

/-! ## Compact texts -/

/-- Blanks keep words apart or follow commas, all commas but a last one are followed by one, and
there are none on either side. -/
structure IsCompact (cs : List Char) : Prop where
  blank : ∀ front back, cs = front ++ ' ' :: back → front.getLast? = some ',' ∨
    front.getLast?.any isWordChar = true ∧ back.head?.any isWordChar = true
  comma : ∀ front back, cs = front ++ ',' :: back → back ≠ [] →
    ∃ more, back = ' ' :: more ∧ more.head? ≠ some ' '
  start : cs.head? ≠ some ' '
  stop : cs.getLast?.any Text.isBlank = false

theorem isCompact_compact (cs : List Char) : IsCompact (compact cs) := by
  have hspaced := isSpaced_squeeze none cs
  obtain ⟨bs, -, hparts⟩ := Text.exists_blanks (squeeze none cs)
  change squeeze none cs = compact cs ++ bs at hparts
  -- A blank is not the last character, so what comes next is in the compact text as well.
  have hlast {front : List Char} : compact cs ≠ front ++ [' '] := fun h =>
    absurd (Text.isBlank_of_trimEnd h) (by decide)
  refine ⟨fun front back h => ?_, fun front back h hback => ?_, ?_, ?_⟩
  · have hfront : squeeze none cs = front ++ ' ' :: (back ++ bs) := by
      rw [hparts, h, List.append_assoc, List.cons_append]
    obtain ⟨x, hx, hword⟩ := hspaced.around_blank hfront
    rw [Option.or_none] at hx
    cases back with
    | nil => exact absurd h hlast
    | cons d back =>
      rw [hx]
      simpa using hword
  · have hfront : squeeze none cs = front ++ ',' :: (back ++ bs) := by
      rw [hparts, h, List.append_assoc, List.cons_append]
    obtain ⟨more, hmore, hhead⟩ := hspaced.after_comma hfront
    match back with
    | [d] =>
      obtain rfl := (List.cons.inj hmore).1
      exact absurd (h.trans (List.append_cons front ',' [' '])) hlast
    | d :: e :: back =>
      obtain ⟨rfl, rfl⟩ := List.cons.inj hmore
      exact ⟨e :: back, rfl, by simpa using hhead⟩
  · intro hhead
    obtain ⟨more, hmore⟩ := List.head?_eq_some_iff.1 hhead
    exact hspaced.head_ne rfl (by rw [hparts, hmore]; rfl)
  · cases hlast : (compact cs).getLast? with
    | none => rfl
    | some c =>
      obtain ⟨front, hfront⟩ := List.getLast?_eq_some_iff.1 hlast
      exact Text.isBlank_of_trimEnd hfront

/-! ## Compacting again -/

/-- A blank at the end changes nothing in front of it. -/
theorem squeeze_concat_blank (hc : Text.isBlank c = true) (before : Option Char)
    (cs : List Char) : squeeze before (cs ++ [c]) =
      squeeze before cs ++ if c = ' ' then [] else [c] := by
  have hword := isWordChar_of_isBlank hc
  fun_induction squeeze before cs with
  | case1 before =>
    have hcomma : c ≠ ',' := by
      rintro rfl
      cases hc
    by_cases hblank : c = ' '
    · subst hblank
      simp [squeeze]
    · simp [squeeze, hblank, hcomma]
  | case2 before cs hkeep ih =>
    have hnext : (cs ++ [c]).head?.any isWordChar = cs.head?.any isWordChar := by
      cases cs <;> simp [hword]
    rw [List.cons_append, squeeze, if_pos rfl, hnext, if_pos hkeep, ih, List.cons_append]
  | case3 before cs hdrop ih =>
    have hnext : (cs ++ [c]).head?.any isWordChar = cs.head?.any isWordChar := by
      cases cs <;> simp [hword]
    rw [List.cons_append, squeeze, if_pos rfl, hnext, if_neg hdrop, ih]
  | case4 before cs h ih =>
    rw [List.cons_append, squeeze, if_neg h, if_pos rfl, ih]
    rfl
  | case5 before d cs hblank hcomma ih =>
    rw [List.cons_append, squeeze, if_neg hblank, if_neg hcomma, ih, List.cons_append]

theorem compact_append_blanks (h : ∀ c ∈ bs, Text.isBlank c = true) :
    compact (cs ++ bs) = compact cs := by
  induction bs generalizing cs with
  | nil => rw [List.append_nil]
  | cons c bs ih =>
    have hc := h c List.mem_cons_self
    rw [List.append_cons, ih fun d hd => h d (List.mem_cons_of_mem c hd), compact,
      squeeze_concat_blank hc, Text.trimEnd_append_blanks]
    · rfl
    · intro d hd
      split at hd
      · cases hd
      · rwa [List.mem_singleton.1 hd]

theorem compact_compact (cs : List Char) : compact (compact cs) = compact cs := by
  obtain ⟨bs, hbs, h⟩ := Text.exists_blanks (squeeze none cs)
  calc compact (compact cs) = compact (compact cs ++ bs) := (compact_append_blanks hbs).symm
    _ = compact (squeeze none cs) := congrArg compact h.symm
    _ = compact cs := congrArg Text.trimEnd (isSpaced_squeeze none cs).squeeze_eq

/-- **What compacting keeps.** The words of a text stay as they are, and all its characters but
blanks and what ends it; blanks stand where they have to, and compacting again changes nothing. -/
theorem compact_keeps_words (cs : List Char) :
    wordRuns (compact cs) = wordRuns cs ∧
      (compact cs).filter (· ≠ ' ') = Text.trimEnd (cs.filter (· ≠ ' ')) ∧
      IsCompact (compact cs) ∧ compact (compact cs) = compact cs := by
  refine ⟨wordRuns_compact cs, ?_, isCompact_compact cs, compact_compact cs⟩
  rw [compact, filter_trimEnd, filter_squeeze]

/-- Blanks in a row, after a comma, and at the end. -/
example : compact " & 'a  str ,  B , ".toList = "&'a str, B,".toList := by decide +kernel

end EndpointStubs.Syntax
