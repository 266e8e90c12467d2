import EndpointStubs.Proofs.Syntax.Compact
import EndpointStubs.Proofs.Syntax.Piece
import Mathlib.Data.Bool.AllAny

/-!
# Printed tokens

Simple tokens, which are words, lifetimes, punctuation and groups of such, are read back from their
compact text: no two of them fuse, and none splits. What is lost is only which of them stood without
a blank between.

    IsSimple blocks ts  →  Lexer.read (compact (printAll ts)) = some us, us alike ts
-/

namespace EndpointStubs.Syntax

open Lexer TokenTree

variable {before : Option Char} {c : Char} {cs rest mid pad : List Char} {w : Word}
  {ts inner : List TokenTree} {blocks : Bool}

/-! ## Simple tokens -/

/-- The punctuation characters that start no comment, no lifetime and no mark of raw words. -/
def signs : List Char := "~!@$%^&*-=+|;:,<.>?".toList

/-- Letters and numbers in any script and `_`; a raw word is one that can be raw. -/
structure Word.IsSimple (w : Word) : Prop where
  letters : ∀ c ∈ w.letters.toList, Unicode.isAlphanumeric c = true ∨ c = '_'
  raw : w.raw = true → w.letters ∉ neverRaw

/-- Words, lifetimes, punctuation and groups of such at any depth. Blocks, and the `;` that a length
or a statement has beside it, are among them or not. -/
inductive IsSimple (blocks : Bool) : List TokenTree → Prop
  | nil : IsSimple blocks []
  | word {w : Word} {ts : List TokenTree} (hw : w.IsSimple) (h : IsSimple blocks ts) :
    IsSimple blocks (.word w :: ts)
  | lifetime {w : Word} {ts : List TokenTree} (hw : w.IsSimple) (h : IsSimple blocks ts) :
    IsSimple blocks (.punct '\'' true :: .word w :: ts)
  | punct {c : Char} {joint : Bool} {ts : List TokenTree} (hc : c ∈ signs)
    (hblocks : c = ';' → blocks = true) (h : IsSimple blocks ts) :
    IsSimple blocks (.punct c joint :: ts)
  | group {d : Delimiter} {inner ts : List TokenTree} (hblocks : d = .brace → blocks = true)
    (hinner : IsSimple blocks inner) (h : IsSimple blocks ts) :
    IsSimple blocks (.group d inner :: ts)

/-! ## Tokens alike -/

namespace TokenTree

mutual

/-- A token tree that does not say which of its tokens stand without a blank between. -/
def apart : TokenTree → TokenTree
  | word w => .word w
  | punct c _ => .punct c false
  | literal text => .literal text
  | group d inner => .group d (apartAll inner)

def apartAll : List TokenTree → List TokenTree
  | [] => []
  | t :: ts => t.apart :: apartAll ts

end

/-- The same tokens, with a blank between neighbours or without. -/
def Alike (ts us : List TokenTree) : Prop := apartAll ts = apartAll us

theorem Alike.cons {t u : TokenTree} {ts us : List TokenTree} (h : t.apart = u.apart)
    (hs : Alike ts us) : Alike (t :: ts) (u :: us) := by
  rw [Alike, apartAll, apartAll, h, hs]

end TokenTree

/-! ## Words -/

namespace Word

theorem head_letters (w : Word) : ∃ c cs, w.letters.toList = c :: cs ∧ c ≠ '"' ∧ c ≠ '#' := by
  obtain ⟨c, cs, hl, hc, -⟩ := w.exists_letters
  obtain ⟨hnot, hpunct⟩ := ne_of_isWordStart hc
  refine ⟨c, cs, hl, ?_, ?_⟩
  · rintro rfl
    exact hnot (by decide)
  · rintro rfl
    exact hpunct (by decide)

theorem toList_text_of_raw (h : w.raw = true) :
    w.text.toList = 'r' :: '#' :: w.letters.toList := by
  rw [toList_text, h]
  rfl

theorem toList_text_of_not_raw (h : w.raw = false) : w.text.toList = w.letters.toList := by
  rw [toList_text, h]
  rfl

theorem of_letters (h : w.raw = false) :
    Word.of (String.ofList w.letters.toList) (by simpa using w.legal) = w := by
  ext1
  · exact h.symm
  · exact String.ofList_toList

/-- The mark of a raw word starts no literal. -/
theorem dropLiteral_of_raw (w : Word) (rest : List Char) :
    dropLiteral ('r' :: '#' :: (w.letters.toList ++ rest)) = none := by
  obtain ⟨c, cs, hl, hquote, hmark⟩ := w.head_letters
  rw [hl, List.cons_append]
  refine dropLiteral_eq_none (by decide) ?_ (by simp) (by simp)
  have hspan : ('#' :: c :: (cs ++ rest)).span (· = '#') = (['#'], c :: (cs ++ rest)) := by
    rw [List.span_eq_takeWhile_dropWhile]
    simp [hmark]
  have hraw : textLiteral ('r' :: '#' :: c :: (cs ++ rest)) =
      rawText (fun _ => true) ('#' :: c :: (cs ++ rest)) := rfl
  rw [hraw, rawText, hspan]
  simp [hquote]

section
variable (hw : w.raw = true → w.letters ∉ neverRaw) (hrest : endsWord rest.head? = true)
include hw hrest

theorem cutAnyWord_text : cutAnyWord (w.text.toList ++ rest) = some (w, rest) := by
  have hletters := cutPlainWord_of_word w.legal hrest
  cases hraw : w.raw with
  | false =>
    rw [toList_text_of_not_raw hraw, cutAnyWord_of_word w.legal hrest, of_letters hraw]
  | true =>
    rw [toList_text_of_raw hraw, List.cons_append, List.cons_append, cutAnyWord, hletters]
    have hword : (Word.of (String.ofList w.letters.toList) (by simpa using w.legal)).asRaw = w := by
      ext1
      · exact hraw.symm
      · exact String.ofList_toList
    have hnever : neverRaw.contains (Word.of (String.ofList w.letters.toList)
        (by simpa using w.legal)).letters = false := by
      simpa [Word.of] using hw hraw
    simp only [Option.bind_eq_bind, Option.bind_some, hnever, hword]
    rfl

theorem reads_text : Reads (w.text.toList ++ rest) [.word w] rest := by
  cases hraw : w.raw with
  | false =>
    have hreads := Reads.word w.legal hrest
    rwa [of_letters hraw, ← toList_text_of_not_raw hraw] at hreads
  | true =>
    have hcut := cutAnyWord_text hw hrest
    rw [toList_text_of_raw hraw, List.cons_append, List.cons_append] at hcut ⊢
    have hword : cutWord ('r' :: '#' :: (w.letters.toList ++ rest)) = some (w, rest) := by
      rw [cutWord, if_neg, hcut]
      obtain ⟨c, cs, hl, hquote, hmark⟩ := w.head_letters
      simp [hl, literalStarts, List.isPrefixOf, Ne.symm hquote, Ne.symm hmark]
    refine .token (by decide) (by decide) rfl ?_ (by simp; omega)
    have hchar : cutPunctChar ('r' :: '#' :: (w.letters.toList ++ rest)) = none := rfl
    rw [cutToken_of_no_literal (by decide) (w.dropLiteral_of_raw rest), cutPunct, hchar, hword]
    rfl

/-- A lifetime is its mark and its name, raw or not. -/
theorem reads_lifetime :
    Reads ('\'' :: (w.text.toList ++ rest)) [.punct '\'' true, .word w] rest := by
  have hcut := cutAnyWord_text hw hrest
  have hcharacter : characterLiteral (w.text.toList ++ rest) = none := by
    cases hraw : w.raw with
    | false =>
      rw [toList_text_of_not_raw hraw]
      exact characterLiteral_of_word w.legal hrest
    | true =>
      rw [toList_text_of_raw hraw]
      rfl
  have hdrop : dropLiteral ('\'' :: (w.text.toList ++ rest)) = none :=
    dropLiteral_eq_none (by decide) (textLiteral_eq_none (by decide)) (by simp) fun _ => hcharacter
  have hnext : rest.head? ≠ some '\'' ∧ rest.head? ≠ some '#' := by
    constructor <;> intro h <;> rw [h] at hrest <;> revert hrest <;> decide
  have hmark : Reads ('\'' :: (w.text.toList ++ rest)) [.punct '\'' true]
      (w.text.toList ++ rest) := by
    refine .token (by decide) (by decide) rfl ?_ le_rfl
    have hchar : cutPunctChar ('\'' :: (w.text.toList ++ rest)) =
        some ('\'', w.text.toList ++ rest) := rfl
    rw [cutToken_of_no_literal (by decide) hdrop, cutPunct, hchar]
    simp [hcut, hnext]
  exact hmark.append (reads_text hw hrest)

end

namespace IsSimple

theorem isWordChar_of_mem (h : w.IsSimple) (hc : c ∈ w.letters.toList) : isWordChar c = true := by
  simpa [isWordChar, or_assoc] using Or.inl (h.letters c hc)

/-- The text of a word has characters of words at both ends, and neither blanks nor commas. -/
theorem bounds (h : w.IsSimple) : (∃ c cs, w.text.toList = c :: cs ∧ isWordChar c = true) ∧
    (∃ cs c, w.text.toList = cs ++ [c] ∧ isWordChar c = true) ∧
    ∀ c ∈ w.text.toList, c ≠ ' ' ∧ c ≠ ',' := by
  obtain ⟨c, cs, hl, -⟩ := w.exists_letters
  have hword : ∀ d ∈ c :: cs, isWordChar d = true := fun d hd => h.isWordChar_of_mem (hl ▸ hd)
  obtain ⟨front, d, hd⟩ := (List.eq_nil_or_concat' (c :: cs)).resolve_left (List.cons_ne_nil c cs)
  have hlast : isWordChar d = true := hword d (by rw [hd]; simp)
  have hmark : ∀ e ∈ ['r', '#'], e ≠ ' ' ∧ e ≠ ',' := List.all_iff_forall_prop.1 (by decide)
  rw [toList_text, hl]
  refine ⟨?_, ⟨_ ++ front, d, by rw [hd, List.append_assoc], hlast⟩, fun e he => ?_⟩
  · cases w.raw with
    | false => exact ⟨c, cs, rfl, hword c List.mem_cons_self⟩
    | true => exact ⟨'r', '#' :: c :: cs, rfl, by decide +kernel⟩
  · rcases List.mem_append.1 he with he | he
    · split at he
      · exact hmark e he
      · cases he
    · exact ne_of_isWordChar (hword e he)

end IsSimple

end Word

/-! ## Printing -/

/-- The blank behind a token that others follow. -/
def gap (t : TokenTree) (ts : List TokenTree) : List Char :=
  if ts.isEmpty || t.isJoint then [] else [' ']

theorem printAll_cons (t : TokenTree) (ts : List TokenTree) :
    printAll (t :: ts) = t.print ++ (gap t ts ++ printAll ts) := by
  cases ts with
  | nil => simp [printAll, gap]
  | cons u ts => simp [printAll, gap]

theorem printAll_cons_append (t : TokenTree) (ts : List TokenTree) :
    printAll (t :: ts) ++ mid = t.print ++ (gap t ts ++ (printAll ts ++ mid)) := by
  rw [printAll_cons, List.append_assoc, List.append_assoc]

theorem print_group_of_ne {d : Delimiter} (h : d ≠ .brace) :
    (TokenTree.group d inner).print = d.opening :: (printAll inner ++ [d.closing]) := by
  cases d with
  | brace => exact absurd rfl h
  | _ => simp [print]

/-- A group is its delimiters around what is printed of the tokens inside. -/
theorem print_group (d : Delimiter) (inner : List TokenTree) : ∃ pad pad', pad ∈ [[], [' ']] ∧
    pad' ∈ [[], [' ']] ∧ (TokenTree.group d inner).print =
      d.opening :: (pad ++ (printAll inner ++ (pad' ++ [d.closing]))) := by
  cases d with
  | paren => exact ⟨[], [], by simp, by simp, print_group_of_ne (by decide)⟩
  | bracket => exact ⟨[], [], by simp, by simp, print_group_of_ne (by decide)⟩
  | brace =>
    cases inner with
    | nil => exact ⟨[], [' '], by simp, by simp, rfl⟩
    | cons t ts => exact ⟨[' '], [' '], by simp, by simp, by simp [print]; exact ⟨rfl, rfl⟩⟩

/-! ## Compact text after a character -/

/-- What compacting leaves of the rest of a text. -/
def compactAfter (before : Option Char) (cs : List Char) : List Char :=
  Text.trimEnd (squeeze before cs)

theorem compactAfter_append_cons (cs : List Char) (h : ∀ d ∈ cs ++ [c], d ≠ ' ' ∧ d ≠ ',')
    (hc : Text.isBlank c = false) :
    compactAfter before (cs ++ c :: rest) = cs ++ c :: compactAfter (some c) rest := by
  have hsqueeze : squeeze before (cs ++ c :: rest) = cs ++ c :: squeeze (some c) rest := by
    induction cs generalizing before with
    | nil =>
      obtain ⟨hblank, hcomma⟩ := h c (by simp)
      rw [List.nil_append, squeeze, if_neg hblank, if_neg hcomma, List.nil_append]
    | cons d cs ih =>
      obtain ⟨hblank, hcomma⟩ := h d (by simp)
      rw [List.cons_append, squeeze, if_neg hblank, if_neg hcomma,
        ih fun e he => h e (List.mem_cons_of_mem d he), List.cons_append]
  rw [compactAfter, hsqueeze, Text.trimEnd_append_cons hc, compactAfter]

theorem compactAfter_cons (hblank : Text.isBlank c = false) (hcomma : c ≠ ',') :
    compactAfter before (c :: rest) = c :: compactAfter (some c) rest := by
  refine compactAfter_append_cons [] ?_ hblank
  intro d hd
  obtain rfl := List.mem_singleton.1 hd
  refine ⟨?_, hcomma⟩
  rintro rfl
  cases hblank

theorem compactAfter_comma :
    compactAfter before (',' :: rest) = ',' :: Text.trimEnd (' ' :: squeeze (some ',') rest) := by
  rw [compactAfter, squeeze, if_neg (by decide), if_pos rfl]
  exact Text.trimEnd_append_cons (by decide) [] _

theorem head?_compactAfter (h : Text.isBlank c = false) :
    (compactAfter before (c :: rest)).head? = some c := by
  by_cases hcomma : c = ','
  · rw [hcomma, compactAfter_comma, List.head?_cons]
  · rw [compactAfter_cons h hcomma, List.head?_cons]

/-- Only the first blank depends on what is in front. -/
theorem compactAfter_of_not_blank (h : Text.isBlank c = false) :
    compactAfter before (c :: rest) = compactAfter none (c :: rest) := by
  by_cases hcomma : c = ','
  · rw [hcomma, compactAfter_comma, compactAfter_comma]
  · rw [compactAfter_cons h hcomma, compactAfter_cons h hcomma]

/-- A blank behind a character that is in no word is dropped. -/
theorem compactAfter_pad (hc : isWordChar c = false) (hpad : pad ∈ [[], [' ']]) :
    compactAfter (some c) (pad ++ rest) = compactAfter (some c) rest := by
  simp only [List.mem_cons, List.not_mem_nil, or_false] at hpad
  rcases hpad with rfl | rfl
  · rfl
  · simp [compactAfter, squeeze, hc]

/-- A blank in front of what starts no word is dropped. -/
theorem compactAfter_pad_of_head (h : cs.head?.any isWordChar = false)
    (hpad : pad ∈ [[], [' ']]) : compactAfter before (pad ++ cs) = compactAfter before cs := by
  simp only [List.mem_cons, List.not_mem_nil, or_false] at hpad
  rcases hpad with rfl | rfl
  · rfl
  · simp [compactAfter, squeeze, h]

theorem compactAfter_pad_cons (hc : isWordChar c = false) (hpad : pad ∈ [[], [' ']]) :
    compactAfter before (pad ++ c :: rest) = compactAfter before (c :: rest) :=
  compactAfter_pad_of_head hc hpad

theorem isBlank_of_isWordChar (h : isWordChar c = true) : Text.isBlank c = false := by
  by_contra hb
  rw [isWordChar_of_isBlank (by simpa using hb)] at h
  cases h

/-- A word is kept, and the character at its end is one of words. -/
theorem Word.IsSimple.compactAfter_text (h : w.IsSimple) : ∃ c, isWordChar c = true ∧
    ∀ before rest, compactAfter before (w.text.toList ++ rest) =
      w.text.toList ++ compactAfter (some c) rest := by
  obtain ⟨-, ⟨cs, c, htext, hc⟩, hnone⟩ := h.bounds
  refine ⟨c, hc, fun before rest => ?_⟩
  rw [htext] at hnone ⊢
  rw [List.append_assoc, List.append_assoc]
  exact compactAfter_append_cons _ hnone (isBlank_of_isWordChar hc)

/-- A blank that compacting sets or keeps is skipped, at the end as well. -/
theorem reads_trimEnd_cons (cs : List Char) :
    Reads (Text.trimEnd (' ' :: cs)) [] (Text.trimEnd cs) := by
  by_cases h : Text.trimEnd cs = []
  · obtain ⟨bs, hbs, hcs⟩ := Text.exists_blanks cs
    rw [h, List.nil_append] at hcs
    subst hcs
    have hblanks : ∀ c ∈ ' ' :: cs, Text.isBlank c = true := by simpa using ⟨by decide, hbs⟩
    have hnil : Text.trimEnd (' ' :: cs) = [] := by
      rw [← List.nil_append (' ' :: cs), Text.trimEnd_append_blanks hblanks]
      rfl
    rw [h, hnil]
    exact .refl []
  · obtain ⟨front, c, hfront⟩ := (List.eq_nil_or_concat' (Text.trimEnd cs)).resolve_left h
    have hc := Text.isBlank_of_trimEnd hfront
    obtain ⟨bs, hbs, hcs⟩ := Text.exists_blanks cs
    have hcons : Text.trimEnd (' ' :: cs) = ' ' :: Text.trimEnd cs := by
      rw [hcs, Text.trimEnd_append_blanks hbs, Text.trimEnd_trimEnd, ← List.cons_append,
        Text.trimEnd_append_blanks hbs, hfront, ← List.cons_append,
        Text.trimEnd_concat_of_not_blank hc]
    rw [hcons]
    exact .blank (by decide)

theorem head?_trimEnd_cons (c : Char) (cs : List Char) :
    (Text.trimEnd (c :: cs)).head? = none ∨ (Text.trimEnd (c :: cs)).head? = some c := by
  obtain ⟨bs, -, h⟩ := Text.exists_blanks (c :: cs)
  cases htrim : Text.trimEnd (c :: cs) with
  | nil => simp
  | cons d ds =>
    rw [htrim] at h
    simp [(List.cons.inj h).1]

/-! ## What stands behind a token -/

/-- The characters other than blanks and those of words that printed tokens start or end with. -/
def marks : List Char := signs ++ ['(', ')', '[', ']', '{', '}']

theorem of_mem_marks (h : c ∈ marks) :
    isWordChar c = false ∧ Text.isBlank c = false ∧ endsWord (some c) = true := by
  have hall : ∀ c ∈ marks, isWordChar c = false ∧ Text.isBlank c = false ∧
      endsWord (some c) = true :=
    List.all_iff_forall_prop.1 (by decide +kernel)
  exact hall c h

/-- Nothing, or what starts no word, behind a blank or not. -/
def Stops (cs : List Char) : Prop :=
  cs = [] ∨ ∃ pad c rest, pad ∈ [[], [' ']] ∧ c ∈ marks ∧ cs = pad ++ c :: rest

theorem Stops.head_not_word (h : Stops cs) : cs.head?.any isWordChar = false := by
  obtain rfl | ⟨pad, c, rest, hpad, hc, rfl⟩ := h
  · rfl
  · simp only [List.mem_cons, List.not_mem_nil, or_false] at hpad
    rcases hpad with rfl | rfl
    · exact (of_mem_marks hc).1
    · exact isWordChar_space

theorem Stops.head? (h : Stops cs) (before : Option Char) : (compactAfter before cs).head? = none ∨
    ∃ c ∈ marks, (compactAfter before cs).head? = some c := by
  obtain rfl | ⟨pad, c, rest, hpad, hc, rfl⟩ := h
  · exact .inl rfl
  · obtain ⟨hword, hblank, -⟩ := of_mem_marks hc
    rw [compactAfter_pad_cons hword hpad, head?_compactAfter hblank]
    exact .inr ⟨c, hc, rfl⟩

theorem Stops.compactAfter_eq (h : Stops cs) : compactAfter before cs = compactAfter none cs := by
  obtain rfl | ⟨pad, c, rest, hpad, hc, rfl⟩ := h
  · rfl
  · obtain ⟨hword, hblank, -⟩ := of_mem_marks hc
    rw [compactAfter_pad_cons hword hpad,
      compactAfter_pad_cons hword hpad, compactAfter_of_not_blank hblank]

theorem Stops.endsWord (h : Stops cs) : endsWord (compactAfter before cs).head? = true := by
  obtain hnone | ⟨c, hc, hsome⟩ := h.head? before
  · rw [hnone]
    rfl
  · rw [hsome]
    exact (of_mem_marks hc).2.2

/-- A character of a word is in front. -/
def StartsWord (cs : List Char) : Prop := ∃ c rest, cs = c :: rest ∧ isWordChar c = true

/-- Simple tokens start with a word, or with what is in none. -/
theorem IsSimple.starts (h : IsSimple blocks ts) (hmid : Stops mid) :
    Stops (printAll ts ++ mid) ∨ StartsWord (printAll ts ++ mid) ∧ ts ≠ [] := by
  cases h with
  | nil => exact .inl hmid
  | @word w ts hw h =>
    obtain ⟨⟨c, cs, htext, hc⟩, -⟩ := hw.bounds
    refine .inr ⟨⟨c, cs ++ (gap (.word w) ts ++ printAll ts) ++ mid, ?_, hc⟩, by simp⟩
    rw [printAll_cons, print, htext]
    rfl
  | @lifetime w ts hw h =>
    refine .inr ⟨⟨'\'', printAll (.word w :: ts) ++ mid, rfl, by decide +kernel⟩, by simp⟩
  | @punct c joint ts hc _ h =>
    refine .inl (.inr ⟨[], c, gap (.punct c joint) ts ++ printAll ts ++ mid, by simp,
      List.mem_append_left _ hc, ?_⟩)
    rw [printAll_cons]
    rfl
  | @group d inner ts _ _ h =>
    obtain ⟨pad, pad', -, -, hprint⟩ := print_group d inner
    refine .inl (.inr ⟨[], d.opening, pad ++ (printAll inner ++ (pad' ++ [d.closing])) ++
      (gap (.group d inner) ts ++ printAll ts) ++ mid, by simp, by cases d <;> decide, ?_⟩)
    rw [printAll_cons, hprint]
    rfl

/-- Nothing else comes next, such as a slash. -/
theorem IsSimple.head?_ne (h : IsSimple blocks ts) (before : Option Char) (hmid : Stops mid)
    (hc : isWordChar c = false) (hmark : c ∉ marks) :
    (compactAfter before (printAll ts ++ mid)).head? ≠ some c := by
  rcases h.starts hmid with hstop | ⟨⟨d, rest, hcs, hd⟩, -⟩
  · obtain hnone | ⟨d, hd, hsome⟩ := hstop.head? before
    · rw [hnone]
      simp
    · rw [hsome]
      rintro ⟨rfl⟩
      exact hmark hd
  · rw [hcs, head?_compactAfter (isBlank_of_isWordChar hd)]
    rintro ⟨rfl⟩
    rw [hc] at hd
    cases hd

theorem isWordChar_slash : isWordChar '/' = false := by decide +kernel

theorem gap_mem (t : TokenTree) (ts : List TokenTree) : gap t ts ∈ [[], [' ']] := by
  unfold gap
  split <;> simp

/-- Behind a word comes what ends it; the blank in front of another word stays. -/
theorem IsSimple.reads_gap (h : IsSimple blocks ts) (hmid : Stops mid) (hc : isWordChar c = true)
    (w : Word) : Reads (compactAfter (some c) (gap (.word w) ts ++ (printAll ts ++ mid))) []
        (compactAfter (some c) (printAll ts ++ mid)) ∧
      endsWord (compactAfter (some c) (gap (.word w) ts ++ (printAll ts ++ mid))).head? = true := by
  rcases h.starts hmid with hstop | ⟨⟨d, rest, hcs, hd⟩, hts⟩
  · rw [compactAfter_pad_of_head hstop.head_not_word (gap_mem _ ts)]
    exact ⟨.refl _, hstop.endsWord⟩
  · have hgap : gap (.word w) ts = [' '] := by
      simp [gap, hts, isJoint]
    have hkeep : compactAfter (some c) (' ' :: d :: rest) =
        Text.trimEnd (' ' :: squeeze (some c) (d :: rest)) := by
      simp [compactAfter, squeeze, hc, hd]
    rw [hgap, hcs, List.singleton_append, hkeep]
    refine ⟨reads_trimEnd_cons _, ?_⟩
    rcases head?_trimEnd_cons ' ' (squeeze (some c) (d :: rest)) with hhead | hhead <;>
      rw [hhead] <;> rfl

/-! ## Reading what was printed -/

theorem mem_punctChars_of_mem_signs (h : c ∈ signs) : c ∈ punctChars ∧ c ∉ ['\'', '/'] := by
  have hall : ∀ c ∈ signs, c ∈ punctChars ∧ c ∉ ['\'', '/'] :=
    List.all_iff_forall_prop.1 (by decide)
  exact hall c h

theorem mem_marks_of_delimiter (d : Delimiter) :
    d.opening ∈ marks ∧ d.opening ≠ ',' ∧ d.closing ∈ marks ∧ d.closing ≠ ',' := by
  cases d <;> decide

/-- A mark stays, and the blank behind it is dropped. -/
theorem compactAfter_mark (hc : c ∈ marks) (hcomma : c ≠ ',') (hpad : pad ∈ [[], [' ']]) :
    compactAfter before (c :: (pad ++ rest)) = c :: compactAfter (some c) rest := by
  obtain ⟨hword, hblank, -⟩ := of_mem_marks hc
  rw [compactAfter_cons hblank hcomma, compactAfter_pad hword hpad]

/-- A punctuation character is read by itself; behind a comma there is the blank set there. -/
theorem reads_sign (before : Option Char) (hsign : c ∈ signs) (hpad : pad ∈ [[], [' ']])
    (hslash : (compactAfter (some c) rest).head? ≠ some '/') : ∃ joint,
    Reads (compactAfter before (c :: (pad ++ rest))) [.punct c joint]
      (compactAfter (some c) rest) := by
  obtain ⟨hpunct, hnot⟩ := mem_punctChars_of_mem_signs hsign
  by_cases hcomma : c = ','
  · subst hcomma
    have hblank := reads_trimEnd_cons (squeeze (some ',') (pad ++ rest))
    rw [← compactAfter, compactAfter_pad isWordChar_comma hpad] at hblank
    have hnext : (Text.trimEnd (' ' :: squeeze (some ',') (pad ++ rest))).head? ≠ some '/' := by
      rcases head?_trimEnd_cons ' ' (squeeze (some ',') (pad ++ rest)) with hhead | hhead <;>
        rw [hhead] <;> simp
    rw [compactAfter_comma]
    exact ⟨_, (Reads.punct hpunct hnot hnext).append hblank⟩
  · rw [compactAfter_mark (List.mem_append_left _ hsign) hcomma hpad]
    exact ⟨_, Reads.punct hpunct hnot hslash⟩

/-- In front of what stops a word, simple tokens are read as they were printed. -/
theorem IsSimple.reads (h : IsSimple blocks ts) (before : Option Char) (hmid : Stops mid) :
    ∃ us, Alike us ts ∧
      Reads (compactAfter before (printAll ts ++ mid)) us (compactAfter none mid) := by
  induction h generalizing before mid with
  | nil =>
    rw [printAll, List.nil_append, hmid.compactAfter_eq]
    exact ⟨[], rfl, .refl _⟩
  | @word w ts hw h ih =>
    obtain ⟨c, hc, htext⟩ := hw.compactAfter_text
    obtain ⟨hgap, hend⟩ := h.reads_gap hmid hc w
    obtain ⟨us, hus, hreads⟩ := ih (some c) hmid
    refine ⟨[.word w] ++ us, .cons rfl hus, ?_⟩
    rw [printAll_cons_append, print, htext]
    exact (Word.reads_text hw.raw hend).append (hgap.append hreads)
  | @lifetime w ts hw h ih =>
    obtain ⟨c, hc, htext⟩ := hw.compactAfter_text
    obtain ⟨hgap, hend⟩ := h.reads_gap hmid hc w
    obtain ⟨us, hus, hreads⟩ := ih (some c) hmid
    refine ⟨[.punct '\'' true, .word w] ++ us, .cons rfl (.cons rfl hus), ?_⟩
    have hmark : printAll (.punct '\'' true :: .word w :: ts) ++ mid =
        '\'' :: (w.text.toList ++ (gap (.word w) ts ++ (printAll ts ++ mid))) := by
      rw [printAll_cons_append, printAll_cons_append]
      simp [print, gap, isJoint]
    rw [hmark, compactAfter_cons (by decide) (by decide), htext]
    exact (Word.reads_lifetime hw.raw hend).append (hgap.append hreads)
  | @punct c joint ts hsign _ h ih =>
    obtain ⟨us, hus, hreads⟩ := ih (some c) hmid
    have hslash := h.head?_ne (some c) hmid isWordChar_slash (by decide)
    obtain ⟨joint', hmark⟩ := reads_sign before hsign (gap_mem (.punct c joint) ts) hslash
    refine ⟨[.punct c joint'] ++ us, .cons (by simp only [apart]) hus, ?_⟩
    rw [printAll_cons_append, print, List.singleton_append]
    exact hmark.append hreads
  | @group d inner ts _ hinner h ihinner ih =>
    obtain ⟨pad, pad', hpad, hpad', hprint⟩ := print_group d inner
    obtain ⟨hopening, hopening', hclosing, hclosing'⟩ := mem_marks_of_delimiter d
    have hstop : Stops (pad' ++ d.closing :: (gap (.group d inner) ts ++ (printAll ts ++ mid))) :=
      .inr ⟨pad', d.closing, _, hpad', hclosing, rfl⟩
    have hslash := hinner.head?_ne (some d.opening) hstop isWordChar_slash (by decide)
    obtain ⟨us, hus, hreads⟩ := ihinner (some d.opening) hstop
    obtain ⟨us', hus', hreads'⟩ := ih (some d.closing) hmid
    rw [compactAfter_pad_cons (of_mem_marks hclosing).1 hpad',
      compactAfter_mark hclosing hclosing' (gap_mem _ ts)] at hreads
    have hall : printAll (.group d inner :: ts) ++ mid = d.opening :: (pad ++ (printAll inner ++
        (pad' ++ d.closing :: (gap (.group d inner) ts ++ (printAll ts ++ mid))))) := by
      rw [printAll_cons_append, hprint]
      simp
    refine ⟨[.group d us] ++ us', .cons ?_ hus', ?_⟩
    · simp only [apart]
      rw [hus]
    · rw [hall, compactAfter_mark hopening hopening' hpad]
      exact (Reads.group d (fun _ => hslash) hreads).append hreads'

/-- Compact text of simple tokens is read back. -/
theorem IsSimple.read_compact (h : IsSimple blocks ts) :
    ∃ us, Lexer.read (compact (printAll ts)) = some us ∧ Alike us ts := by
  have hmid : Stops [] := .inl rfl
  obtain ⟨us, hus, hreads⟩ := h.reads none hmid
  rw [List.append_nil] at hreads
  have hmark := h.head?_ne none hmid (c := '\ufeff') (by decide +kernel) (by decide)
  rw [List.append_nil] at hmark
  exact ⟨us, hreads.read_eq hmark, hus⟩

end EndpointStubs.Syntax
