import EndpointStubs.Proofs.Text.Quoted
import EndpointStubs.Syntax.Lexer
import Mathlib.Data.List.TakeDrop

/-!
# Reading tokens piece by piece

What stands in front of a text is read by itself, as far as what follows it cannot change what it
is: `Reads cs ts rest` says that in front of `rest` the text `cs` has the token trees `ts`. The
remaining characters belong to the judgment, as the longest word is taken.

    Reads cs ts mid, Reads mid us rest  →  Reads cs (ts ++ us) rest
-/

namespace EndpointStubs.Syntax.Lexer

variable {cs rest : List Char} {c : Char} {ls : List Lexeme} {n : Nat}

/-! ## Comments -/

theorem length_cutLine (cs : List Char) : (cutLine cs).2.length ≤ cs.length := by
  fun_induction cutLine cs <;> grind

theorem length_cutBlock {depth : Nat} {cs : List Char} {r : List Char × List Char}
    (h : cutBlock depth cs = some r) : r.2.length ≤ cs.length := by
  fun_induction cutBlock depth cs generalizing r <;> grind [Option.map_eq_some_iff]

theorem length_cutComment (h : cutComment cs = some rest) : rest.length < cs.length := by
  unfold cutComment at h
  split at h
  · split at h
    · cases h
    · obtain rfl := Option.some.inj h
      have := length_cutLine ‹_›
      grind
  · grind
  · split at h
    · cases h
    · obtain ⟨r, hr, rfl⟩ := Option.map_eq_some_iff.1 h
      have := length_cutBlock hr
      grind
  · cases h

theorem skipBlanks_succ (h : cs.length ≤ n) : skipBlanks (n + 1) cs = skipBlanks n cs := by
  induction n generalizing cs with
  | zero =>
    obtain rfl := List.length_eq_zero_iff.1 (Nat.le_zero.1 h)
    rfl
  | succ n ih =>
    rw [skipBlanks, skipBlanks]
    have hlen : (cs.dropWhile isBlank).length ≤ cs.length := (List.dropWhile_suffix _).length_le
    cases hc : cutComment (cs.dropWhile isBlank) with
    | none => rfl
    | some rest =>
      have := length_cutComment hc
      exact ih (by omega)

theorem lexemes_of_skipBlanks (h : skipBlanks (n + 1) cs = skipBlanks (n + 1) rest) :
    lexemes (n + 1) cs = lexemes (n + 1) rest := by
  rw [lexemes, lexemes, h]

/-! ## The judgment -/

/-- The tokens and delimiters of a text, with any fuel that suffices. -/
def Lexes (cs : List Char) (ls : List Lexeme) : Prop :=
  ∀ n, cs.length < n → lexemes n cs = some ls

/-- In front of `rest` the text has these token trees, wherever they are put. -/
def Reads (cs : List Char) (ts : List TokenTree) (rest : List Char) : Prop :=
  ∀ ls, Lexes rest ls → ∃ ls', Lexes cs ls' ∧
    ∀ stack done, nest stack done ls' = nest stack (ts.reverse ++ done) ls

theorem lexes_nil : Lexes [] [] := by
  intro n hn
  obtain ⟨n, rfl⟩ := Nat.exists_eq_succ_of_ne_zero (Nat.ne_of_gt hn)
  rfl

theorem Reads.refl (cs : List Char) : Reads cs [] cs := fun ls h => ⟨ls, h, fun _ _ => rfl⟩

/-- Two texts in a row are read one after the other. -/
theorem Reads.append {ts us : List TokenTree} {mid : List Char} (h : Reads cs ts mid)
    (h' : Reads mid us rest) : Reads cs (ts ++ us) rest := by
  intro ls hls
  obtain ⟨ls', hls', hnest'⟩ := h' ls hls
  obtain ⟨ls'', hls'', hnest''⟩ := h ls' hls'
  refine ⟨ls'', hls'', fun stack done => ?_⟩
  rw [hnest'', hnest', List.reverse_append, List.append_assoc]

/-- Lexemes that stay the same when what is skipped is left out. -/
theorem Reads.of_skipBlanks (hlen : rest.length < cs.length)
    (h : ∀ n, rest.length ≤ n → skipBlanks (n + 1) cs = skipBlanks (n + 1) rest) :
    Reads cs [] rest := by
  refine fun ls hls => ⟨ls, fun n hn => ?_, fun _ _ => rfl⟩
  obtain ⟨n, rfl⟩ := Nat.exists_eq_succ_of_ne_zero (by omega : n ≠ 0)
  rw [lexemes_of_skipBlanks (h n (by omega))]
  exact hls _ (by omega)

theorem Reads.blank (h : isBlank c = true) : Reads (c :: cs) [] cs := by
  refine .of_skipBlanks (by simp) fun n _ => ?_
  rw [skipBlanks, skipBlanks, List.dropWhile_cons_of_pos h]

theorem Reads.comment (h : cutComment cs = some rest) : Reads cs [] rest := by
  refine .of_skipBlanks (length_cutComment h) fun n hn => ?_
  have hcs : cs.dropWhile isBlank = cs := by
    unfold cutComment at h
    split at h <;> first | rfl | cases h
  rw [skipBlanks_succ hn, skipBlanks, hcs, h]

/-- What stands in front of a text that starts with no blank and no comment. -/
theorem skipBlanks_of_bare (hb : isBlank c = false) (hc : cutComment (c :: cs) = none) :
    skipBlanks (n + 1) (c :: cs) = c :: cs := by
  have : (c :: cs).dropWhile isBlank = c :: cs := List.dropWhile_cons_of_neg (by simp [hb])
  rw [skipBlanks, this, hc]

theorem Reads.doc {d : DocComment} (hb : isBlank c = false) (hc : cutComment (c :: cs) = none)
    (hd : cutDoc (c :: cs) = some (d, rest)) (hreturn : hasBareReturn d.text = false)
    (hlen : rest.length ≤ cs.length) {ts : List TokenTree} (hts : d.lexemes = ts.map .token) :
    Reads (c :: cs) ts rest := by
  refine fun ls hls => ⟨d.lexemes ++ ls, fun n hn => ?_, fun stack done => ?_⟩
  · obtain ⟨n, rfl⟩ := Nat.exists_eq_succ_of_ne_zero (by omega : n ≠ 0)
    simp only [List.length_cons] at hn
    simp [lexemes, skipBlanks_of_bare hb hc, hd, hreturn, hls n (by omega)]
  · rw [hts]
    clear hts
    induction ts generalizing done with
    | nil => rfl
    | cons t ts ih => simp [nest, ih]

/-! ## Tokens and groups -/

theorem cutComment_eq_none (h : c ≠ '/') : cutComment (c :: cs) = none := by
  unfold cutComment
  split <;> simp_all

theorem cutDoc_eq_none (h : c ≠ '/') : cutDoc (c :: cs) = none := by
  unfold cutDoc
  split <;> simp_all

/-- One token in front is read as that token. -/
theorem Reads.token {t : TokenTree} (hb : isBlank c = false) (hc : c ≠ '/')
    (hd : delimiter? c = none) (ht : cutToken (c :: cs) = some (t, rest))
    (hlen : rest.length ≤ cs.length) : Reads (c :: cs) [t] rest := by
  refine fun ls hls => ⟨.token t :: ls, fun n hn => ?_, fun stack done => by simp [nest]⟩
  obtain ⟨n, rfl⟩ := Nat.exists_eq_succ_of_ne_zero (by omega : n ≠ 0)
  simp only [List.length_cons] at hn
  simp [lexemes, skipBlanks_of_bare hb (cutComment_eq_none hc), cutDoc_eq_none hc, hd, ht,
    hls n (by omega)]

theorem lexes_delimiter {l : Lexeme} (hd : delimiter? c = some l)
    (hmark : errorMark.isPrefixOf (c :: cs) = false) (h : Lexes cs ls) :
    Lexes (c :: cs) (l :: ls) := by
  intro n hn
  obtain ⟨n, rfl⟩ := Nat.exists_eq_succ_of_ne_zero (by omega : n ≠ 0)
  simp only [List.length_cons] at hn
  have hb : isBlank c = false ∧ c ≠ '/' := by
    unfold delimiter? at hd
    split at hd <;> first | exact ⟨by decide, by decide⟩ | cases hd
  simp [lexemes, skipBlanks_of_bare hb.1 (cutComment_eq_none hb.2), cutDoc_eq_none hb.2, hmark, hd,
    h n (by omega)]

theorem errorMark_not_isPrefixOf (h : c = '(' → cs.head? ≠ some '/') :
    errorMark.isPrefixOf (c :: cs) = false := by
  have hm : errorMark = '(' :: '/' :: "*ERROR*/)".toList := by decide
  rw [hm, List.isPrefixOf_cons_cons, Bool.and_eq_false_imp]
  intro hc
  have hne := h (eq_of_beq hc).symm
  cases cs with
  | nil => rfl
  | cons d cs =>
    rw [List.isPrefixOf_cons_cons, Bool.and_eq_false_imp]
    intro hd
    exact absurd (eq_of_beq hd ▸ rfl) hne

/-- A group; what stands after the opening parenthesis is not the mark of an error. -/
theorem Reads.group (d : Delimiter) {ts : List TokenTree}
    (hmark : d = .paren → cs.head? ≠ some '/') (h : Reads cs ts (d.closing :: rest)) :
    Reads (d.opening :: cs) [.group d ts] rest := by
  intro ls hls
  have hclosing : Lexes (d.closing :: rest) (.closing d :: ls) := by
    refine lexes_delimiter (by cases d <;> rfl) (errorMark_not_isPrefixOf fun h => ?_) hls
    cases d <;> cases h
  obtain ⟨ls', hls', hnest⟩ := h _ hclosing
  refine ⟨.opening d :: ls', ?_, fun stack done => ?_⟩
  · refine lexes_delimiter (by cases d <;> rfl) (errorMark_not_isPrefixOf ?_) hls'
    cases d <;> simp_all [Delimiter.opening]
  · rw [nest, hnest]
    simp [nest]

/-- A text that is read to its end. -/
theorem Reads.read_eq {ts : List TokenTree} (h : Reads cs ts [])
    (hmark : cs.head? ≠ some '\ufeff') : Lexer.read cs = some ts := by
  obtain ⟨ls, hls, hnest⟩ := h [] lexes_nil
  have hn : nest [] [] ls = some ts := by
    rw [hnest]
    simp [nest]
  unfold Lexer.read
  split
  · simp at hmark
  · simp [hls _ (Nat.lt_succ_self _), hn]

/-! ## Words -/

/-- After a word: nothing that goes on with it, or makes it the start of a literal or a raw word. -/
def endsWord (next : Option Char) : Bool :=
  !next.any fun c => isWordContinue c || c = '"' || c = '\'' || c = '#'

def blankPoints : List Nat :=
  [0x09, 0x0a, 0x0b, 0x0c, 0x0d, 0x20, 0x85, 0xa0, 0x1680, 0x2000, 0x2001, 0x2002, 0x2003, 0x2004,
   0x2005, 0x2006, 0x2007, 0x2008, 0x2009, 0x200a, 0x200e, 0x200f, 0x2028, 0x2029, 0x202f, 0x205f,
   0x3000]

theorem toNat_mem_blankPoints (h : isBlank c = true) : c.toNat ∈ blankPoints := by
  simp only [isBlank, Text.isBlank, Bool.or_eq_true, Bool.and_eq_true, decide_eq_true_eq] at h
  rcases h with (h | rfl) | rfl
  · simp only [blankPoints, List.mem_cons, List.not_mem_nil, or_false]
    omega
  · decide
  · decide

theorem isWordStart_of_toNat_mem {ns : List Nat}
    (hns : ∀ n ∈ ns, isWordStart (Char.ofNat n) = false) (h : c.toNat ∈ ns) :
    isWordStart c = false := by
  rw [← Char.ofNat_toNat c]
  exact hns _ h

theorem isBlank_of_isWordStart (h : isWordStart c = true) : isBlank c = false := by
  by_contra hb
  have hns : ∀ n ∈ blankPoints, isWordStart (Char.ofNat n) = false := by decide +kernel
  rw [isWordStart_of_toNat_mem hns (toNat_mem_blankPoints (by simpa using hb))] at h
  cases h

theorem isDigit_of_isWordStart (h : isWordStart c = true) : c.isDigit = false := by
  by_contra hd
  have hns : ∀ n ∈ [48, 49, 50, 51, 52, 53, 54, 55, 56, 57],
      isWordStart (Char.ofNat n) = false := by
    decide +kernel
  have hm : c.toNat ∈ [48, 49, 50, 51, 52, 53, 54, 55, 56, 57] := by
    simp only [Char.isDigit, ge_iff_le, Bool.not_eq_false, Bool.and_eq_true, decide_eq_true_eq,
      UInt32.le_iff_toNat_le] at hd
    have h0 : '0'.val.toNat = 48 := rfl
    have h9 : '9'.val.toNat = 57 := rfl
    simp only [Char.toNat, List.mem_cons, List.not_mem_nil, or_false]
    omega
  rw [isWordStart_of_toNat_mem hns hm] at h
  cases h

/-- ASCII characters that start no word. -/
theorem ne_of_isWordStart (h : isWordStart c = true) :
    c ∉ ['"', '\\', '/', '(', ')', '[', ']', '{', '}'] ∧ c ∉ punctChars := by
  have hnone : (['"', '\\', '/', '(', ')', '[', ']', '{', '}'] ++ punctChars).any isWordStart =
      false := by
    decide +kernel
  have hall := List.any_eq_false.1 hnone
  constructor
  · intro hm
    exact hall c (List.mem_append_left _ hm) h
  · intro hm
    exact hall c (List.mem_append_right _ hm) h

theorem span_append_of_all {α : Type} {p : α → Bool} {w rest : List α} (hw : w.all p = true)
    (hrest : rest.head?.any p = false) : (w ++ rest).span p = (w, rest) := by
  have hmem : ∀ a ∈ w, p a = true := by simpa using hw
  rw [List.span_eq_takeWhile_dropWhile, List.takeWhile_append_of_pos hmem,
    List.dropWhile_append_of_pos hmem]
  cases rest with
  | nil => simp
  | cons a rest => simp_all

/-- What follows a word is where the characters of words end. -/
theorem head_of_word {w letters tail : List Char} (hw : w.all isWordContinue = true)
    (hrest : rest.head?.any isWordContinue = false) (hl : letters.all isWordContinue = true)
    (hc : isWordContinue c = false) (h : w ++ rest = letters ++ c :: tail) :
    rest.head? = some c := by
  induction w generalizing letters with
  | nil =>
    cases letters with
    | nil => simp_all
    | cons d letters => simp_all
  | cons d w ih =>
    cases letters with
    | nil => simp_all
    | cons e letters =>
      simp only [List.cons_append, List.cons.injEq, List.all_cons, Bool.and_eq_true] at h hw hl
      exact ih hw.2 hl.2 h.2

/-! ## Literals that are none -/

theorem le_of_hexDigit? {d : Nat} (hd : c.isDigit = false) (h : Text.Quoted.hexDigit? c = some d) :
    10 ≤ d := by
  unfold Text.Quoted.hexDigit? at h
  split_ifs at h with hdec hlow hup
  · have : c.isDigit = true := by simpa [Char.isDigit, Char.le_def] using hdec
    rw [hd] at this
    cases this
  · have := Char.le_def.1 hlow.1
    have h97 : 'a'.val.toNat = 97 := rfl
    simp only [UInt32.le_iff_toNat_le] at this
    simp only [Option.some.injEq, Char.toNat] at h
    omega
  · have := Char.le_def.1 hup.1
    have h65 : 'A'.val.toNat = 65 := rfl
    simp only [UInt32.le_iff_toNat_le] at this
    simp only [Option.some.injEq, Char.toNat] at h
    omega

theorem dropDigits_eq_none (hd : c.isDigit = false) : dropDigits 10 false (c :: cs) = none := by
  rw [dropDigits]
  split
  · rfl
  · cases h : Text.Quoted.hexDigit? c with
    | none => rfl
    | some d => simp [Nat.not_lt.2 (le_of_hexDigit? hd h), hd]

theorem intLiteral_eq_none (hd : c.isDigit = false) : intLiteral (c :: cs) = none := by
  have h0 : c ≠ '0' := by
    rintro rfl
    exact absurd hd (by decide)
  unfold intLiteral
  split
  · simp_all
  · simp_all
  · simp_all
  · rw [dropDigits_eq_none hd]
    rfl

theorem floatLiteral_eq_none (hd : c.isDigit = false) : floatLiteral (c :: cs) = none := by
  rw [floatLiteral, hd]
  rfl

theorem rawText_eq_none {allows : Char → Bool} (h : cs.head? ≠ some '#')
    (h' : cs.head? ≠ some '"') : rawText allows cs = none := by
  have hspan : cs.span (· = '#') = ([], cs) := by
    cases cs with
    | nil => rfl
    | cons d cs => simp_all [List.span, List.span.loop]
  rw [rawText, hspan]
  split
  · rename_i heq
    obtain ⟨-, rfl⟩ := Prod.mk.inj heq
    split
    · simp at h'
    · rfl

/-- What starts no text and no number starts a literal only if it is the mark of a character. -/
theorem dropLiteral_eq_none (hd : c.isDigit = false) (ht : textLiteral (c :: cs) = none)
    (hb : ∀ cs', c :: cs ≠ 'b' :: '\'' :: cs') (hq : c = '\'' → characterLiteral cs = none) :
    dropLiteral (c :: cs) = none := by
  unfold dropLiteral
  rw [ht, floatLiteral_eq_none hd, intLiteral_eq_none hd]
  split
  · simp_all
  · split
    · rename_i hs
      split at hs
      · exact absurd ‹_› (hb _)
      · simp_all
      · cases hs
    · rfl

/-- Neither a letter of a literal nor a quote in front. -/
theorem textLiteral_eq_none (h : c ∉ ['"', 'b', 'c', 'r']) : textLiteral (c :: cs) = none := by
  unfold textLiteral
  split <;> simp_all

/-- The mark of an error starts with a parenthesis. -/
theorem isPrefixOf?_errorMark (hc : c ≠ '(') : errorMark.isPrefixOf? (c :: cs) = none := by
  have hmark : errorMark = '(' :: "/*ERROR*/)".toList := by decide
  rw [hmark]
  exact if_neg (by simpa using Ne.symm hc)

theorem cutToken_of_no_literal (hc : c ≠ '(') (h : dropLiteral (c :: cs) = none) :
    cutToken (c :: cs) =
      match cutPunct (c :: cs) with
      | some r => some r
      | none => (cutWord (c :: cs)).map fun r => (.word r.1, r.2) := by
  rw [cutToken, isPrefixOf?_errorMark hc, h]
  rfl

/-! ## Words -/

/-- No mark of a literal or of a raw word comes right after characters of words. -/
theorem not_mark_of_continue {w : List Char} (hw : w.all isWordContinue = true)
    (hrest : endsWord rest.head? = true) (letters : List Char) {tail : List Char}
    (hl : letters.all isWordContinue = true) (hc : c ∈ ['"', '\'', '#']) :
    w ++ rest ≠ letters ++ c :: tail := by
  intro h
  have hnone : ['"', '\'', '#'].any isWordContinue = false := by decide
  have hcontinue : isWordContinue c = false :=
    Bool.eq_false_of_not_eq_true (List.any_eq_false.1 hnone c hc)
  have hend : rest.head?.any isWordContinue = false := by
    cases rest <;> simp_all [endsWord]
  rw [head_of_word hw hend hl hcontinue h] at hrest
  simp only [List.mem_cons, List.not_mem_nil, or_false] at hc
  rcases hc with rfl | rfl | rfl <;> revert hrest <;> decide

section
variable {w : List Char} (hw : isWord w = true) (hrest : endsWord rest.head? = true)
include hw hrest

/-- No mark of a literal or of a raw word ends the word. -/
theorem not_mark_of_word (letters : List Char) {tail : List Char}
    (hl : letters.all isWordContinue = true) (hc : c ∈ ['"', '\'', '#']) :
    w ++ rest ≠ letters ++ c :: tail := by
  have hnone : ['"', '\'', '#'].any isWordStart = false := by decide
  have hstart : ¬isWordStart c = true := List.any_eq_false.1 hnone c hc
  cases w with
  | nil => cases hw
  | cons a w =>
    rw [isWord, Bool.and_eq_true] at hw
    intro h
    cases letters with
    | nil =>
      obtain rfl := (List.cons.inj h).1
      exact hstart hw.1
    | cons e letters =>
      exact not_mark_of_continue hw.2 hrest letters (by simp_all) hc (List.cons.inj h).2

theorem rawText_of_word {allows : Char → Bool} {letters : List Char}
    (hl : letters.all isWordContinue = true) (h : w ++ rest = letters ++ cs) :
    rawText allows cs = none := by
  refine rawText_eq_none ?_ ?_
  all_goals
    intro hcs
    obtain ⟨tail, rfl⟩ := List.head?_eq_some_iff.1 hcs
    exact not_mark_of_word hw hrest _ hl (by decide) h

theorem textLiteral_of_word : textLiteral (w ++ rest) = none := by
  have hl : ∀ letters ∈ [[], ['b'], ['c'], ['r'], ['b', 'r'], ['c', 'r']],
      letters.all isWordContinue = true := by
    decide
  unfold textLiteral
  split
  · exact absurd ‹_› (not_mark_of_word hw hrest _ (hl [] (by decide)) (by decide))
  · exact absurd ‹_› (not_mark_of_word hw hrest _ (hl ['b'] (by decide)) (by decide))
  · exact absurd ‹_› (not_mark_of_word hw hrest _ (hl ['c'] (by decide)) (by decide))
  · exact rawText_of_word hw hrest (hl ['b', 'r'] (by decide)) ‹_›
  · exact rawText_of_word hw hrest (hl ['c', 'r'] (by decide)) ‹_›
  · exact rawText_of_word hw hrest (hl ['r'] (by decide)) ‹_›
  · rfl

theorem cutPlainWord_of_word :
    cutPlainWord (w ++ rest) = some (.of (String.ofList w) (by simpa using hw), rest) := by
  cases w with
  | nil => cases hw
  | cons c w =>
    have hend : rest.head?.any isWordContinue = false := by
      cases rest <;> simp_all [endsWord]
    have hc : isWordStart c = true := (Bool.and_eq_true _ _ ▸ hw).1
    have hall : w.all isWordContinue = true := (Bool.and_eq_true _ _ ▸ hw).2
    have hspan := span_append_of_all hall hend
    rw [List.span_eq_takeWhile_dropWhile, Prod.mk.injEq] at hspan
    have hword : Word.startingWith c (w ++ rest) hc =
        .of (String.ofList (c :: w)) (by simpa using hw) := by
      ext1
      · rfl
      · exact congrArg (fun cs => String.ofList (c :: cs)) hspan.1
    rw [List.cons_append, cutPlainWord, dif_pos hc, hspan.2, hword]

theorem cutAnyWord_of_word :
    cutAnyWord (w ++ rest) = some (.of (String.ofList w) (by simpa using hw), rest) := by
  have hraw (cs' : List Char) : w ++ rest ≠ 'r' :: '#' :: cs' :=
    not_mark_of_word hw hrest ['r'] (by decide) (by decide)
  unfold cutAnyWord
  split
  · exact absurd ‹_› (hraw _)
  · exact cutPlainWord_of_word hw hrest

theorem cutWord_of_word :
    cutWord (w ++ rest) = some (.of (String.ofList w) (by simpa using hw), rest) := by
  -- Each start of a literal is some letters and a mark.
  have hmarks : (literalStarts.all fun s => ((s.toList.dropWhile isWordContinue).head?.any
      fun c => ['"', '\'', '#'].contains c)) = true := by
    decide
  have hmark : ∀ s ∈ literalStarts, ∃ c ∈ ['"', '\'', '#'],
      (s.toList.dropWhile isWordContinue).head? = some c := by
    intro s hs
    obtain ⟨c, hhead, hc⟩ := (Option.any_eq_true _ _).1 (List.all_eq_true.1 hmarks s hs)
    exact ⟨c, List.contains_iff_mem.1 hc, hhead⟩
  rw [cutWord, if_neg, cutAnyWord_of_word hw hrest]
  simp only [List.any_eq_true, not_exists, not_and]
  intro s hs h
  obtain ⟨tail, htail⟩ := List.isPrefixOf_iff_prefix.1 h
  obtain ⟨c, hc, hhead⟩ := hmark s hs
  obtain ⟨more, hmore⟩ := List.head?_eq_some_iff.1 hhead
  obtain ⟨letters, hletters, hparts⟩ :
      ∃ letters, letters.all isWordContinue = true ∧ s.toList = letters ++ c :: more :=
    ⟨_, List.all_takeWhile, by rw [← hmore, List.takeWhile_append_dropWhile]⟩
  refine not_mark_of_word hw hrest letters hletters hc (?_ : _ = _ ++ c :: (more ++ tail))
  rw [← htail, hparts]
  simp

/-- A word is read whole. -/
theorem Reads.word :
    Reads (w ++ rest) [.word (.of (String.ofList w) (by simpa using hw))] rest := by
  have hliteral := textLiteral_of_word hw hrest
  have hcut := cutWord_of_word hw hrest
  have hbyte (cs' : List Char) : w ++ rest ≠ 'b' :: '\'' :: cs' :=
    not_mark_of_word hw hrest ['b'] (by decide) (by decide)
  cases w with
  | nil => cases hw
  | cons c w =>
    have hstart : isWordStart c = true := (Bool.and_eq_true _ _ ▸ hw).1
    obtain ⟨hnot, hpunct⟩ := ne_of_isWordStart hstart
    have hq : c ≠ '\'' := by
      rintro rfl
      exact hpunct (by decide)
    simp only [List.mem_cons, List.not_mem_nil, or_false, not_or] at hnot
    have hdrop : dropLiteral (c :: (w ++ rest)) = none :=
      dropLiteral_eq_none (isDigit_of_isWordStart hstart) hliteral hbyte (fun h => absurd h hq)
    have hchar : cutPunctChar (c :: (w ++ rest)) = none := by
      unfold cutPunctChar
      split <;> simp_all
    refine .token (isBlank_of_isWordStart hstart) hnot.2.2.1 ?_ ?_ (by simp)
    · unfold delimiter?
      split <;> simp_all
    · change cutToken (c :: (w ++ rest)) = _
      rw [cutToken_of_no_literal hnot.2.2.2.1 hdrop, cutPunct, hchar]
      simp only [List.cons_append] at hcut
      rw [hcut]
      rfl

theorem characterLiteral_of_word : characterLiteral (w ++ rest) = none := by
  cases w with
  | nil => cases hw
  | cons c w =>
    rw [isWord, Bool.and_eq_true] at hw
    have hslash : c ≠ '\\' := by
      rintro rfl
      exact absurd hw.1 (by decide)
    have hne (cs : List Char) : w ++ rest ≠ '\'' :: cs :=
      not_mark_of_continue hw.2 hrest [] rfl (by decide)
    cases hcs : w ++ rest with
    | nil => simp [characterLiteral, hcs, hslash]
    | cons d cs =>
      have hd : d ≠ '\'' := by
        rintro rfl
        exact hne _ hcs
      simp [characterLiteral, hcs, hslash, hd]

/-- A lifetime is its mark and its name. -/
theorem Reads.lifetime :
    Reads ('\'' :: (w ++ rest))
      [.punct '\'' true, .word (.of (String.ofList w) (by simpa using hw))] rest := by
  have hdrop : dropLiteral ('\'' :: (w ++ rest)) = none :=
    dropLiteral_eq_none (by decide) (textLiteral_eq_none (by decide)) (by simp)
      fun _ => characterLiteral_of_word hw hrest
  have hcut := cutAnyWord_of_word hw hrest
  have hnext : rest.head? ≠ some '\'' ∧ rest.head? ≠ some '#' := by
    constructor <;> intro h <;> rw [h] at hrest <;> revert hrest <;> decide
  have hmark : Reads ('\'' :: (w ++ rest)) [.punct '\'' true] (w ++ rest) := by
    refine .token (by decide) (by decide) rfl ?_ le_rfl
    have hchar : cutPunctChar ('\'' :: (w ++ rest)) = some ('\'', w ++ rest) := by
      rfl
    rw [cutToken_of_no_literal (by decide) hdrop, cutPunct, hchar]
    simp [hcut, hnext]
  exact hmark.append (.word hw hrest)

end

/-! ## Punctuation and quoted texts -/

/-- What follows is a punctuation character. -/
def isSign (next : Option Char) : Bool := next.any fun c => punctChars.contains c

theorem isSome_cutPunctChar (hrest : rest.head? ≠ some '/') :
    (cutPunctChar rest).isSome = isSign rest.head? := by
  cases rest with
  | nil => rfl
  | cons d cs =>
    have hd : d ≠ '/' := by simpa using hrest
    unfold cutPunctChar
    split
    · simp_all
    · rename_i heq
      obtain ⟨rfl, rfl⟩ := List.cons.inj heq
      simp only [isSign, List.head?_cons, Option.any_some]
      split <;> simp_all
    · simp_all

/-- A punctuation character is read by itself, unless a slash follows, which may start a comment. -/
theorem Reads.punct (hc : c ∈ punctChars) (hne : c ∉ ['\'', '/']) (hrest : rest.head? ≠ some '/') :
    Reads (c :: rest) [.punct c (isSign rest.head?)] rest := by
  have hsigns : (punctChars.all fun d => d.isDigit = false ∧ d ∉ ['"', 'b', 'c', 'r', '('] ∧
      isBlank d = false ∧ (delimiter? d).isNone) = true := by
    decide
  have hall := fun d hd => of_decide_eq_true (List.all_eq_true.1 hsigns d hd)
  obtain ⟨hdigit, hstart, hblank, hdelim⟩ := hall c hc
  simp only [List.mem_cons, List.not_mem_nil, or_false, not_or] at hstart hne
  have hdrop : dropLiteral (c :: rest) = none := by
    refine dropLiteral_eq_none hdigit (textLiteral_eq_none ?_) ?_ fun h => absurd h hne.1
    · simp [hstart]
    · simp [hstart]
  have hchar : cutPunctChar (c :: rest) = some (c, rest) := by
    unfold cutPunctChar
    split <;> simp_all
  refine .token hblank hne.2 (by simpa using hdelim) ?_ le_rfl
  rw [cutToken_of_no_literal hstart.2.2.2.2 hdrop, cutPunct, hchar]
  simp [hne.1, isSome_cutPunctChar hrest]

/-- A quoted text is one literal, if no word follows that would be its suffix. -/
theorem cutToken_of_isQuoted {literal value : List Char}
    (h : Text.Quoted.IsQuoted literal value) (hrest : rest.head?.any isWordStart = false) :
    cutToken (literal ++ rest) = some (.literal (String.ofList literal), rest) := by
  obtain ⟨body, rfl, hread⟩ := h
  have hsuffix : dropSuffix rest = rest := by
    cases rest <;> simp_all [dropSuffix, cutPlainWord]
  have hcooked : cookedText .text (body ++ rest) = some rest := by
    rw [cookedText, Text.Quoted.readFrom_append hread]
    rfl
  have hdrop : dropLiteral ('"' :: body ++ rest) = some rest := by
    have htext : textLiteral ('"' :: body ++ rest) = some rest := hcooked
    unfold dropLiteral
    rw [htext]
    exact congrArg some hsuffix
  have hmark : errorMark.isPrefixOf? ('"' :: body ++ rest) = none :=
    isPrefixOf?_errorMark (by decide)
  have htake : ('"' :: body ++ rest).take (('"' :: body ++ rest).length - rest.length) =
      '"' :: body := by
    rw [List.length_append, Nat.add_sub_cancel, List.take_left]
  rw [cutToken, hmark, hdrop]
  simp only [Option.none_or, htake]

/-- A quoted text is one literal, if no word goes on behind it. -/
theorem Reads.of_isQuoted {literal value : List Char} (h : Text.Quoted.IsQuoted literal value)
    (hrest : rest.head?.any isWordStart = false) :
    Reads (literal ++ rest) [.literal (String.ofList literal)] rest := by
  have hcut := cutToken_of_isQuoted h hrest
  obtain ⟨body, rfl, -⟩ := h
  exact .token (by decide) (by decide) rfl hcut (by simp)

/-- A text is read as it was quoted. -/
theorem Reads.quoted (s : List Char) (hrest : rest.head?.any isWordStart = false) :
    Reads (Text.Quoted.encode s ++ rest) [.literal (String.ofList (Text.Quoted.encode s))] rest :=
  .of_isQuoted (Text.Quoted.isQuoted_encode s) hrest

end EndpointStubs.Syntax.Lexer
