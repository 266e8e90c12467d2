import EndpointStubs.Proofs.Syntax.Lexing
import EndpointStubs.Syntax.Cursor

/-!
# Source text in pieces

A piece is a part of a source text, with its characters and the token trees that they stand for.
Pieces in a row are read back as their trees if each of them ends where the next one starts, which
only the next character decides.

    fitsAll next ps, rest starts with next  →  Reads (charsAll ps ++ rest) (treesAll ps) rest
-/

namespace EndpointStubs.Syntax

open Lexer

/-- One word that is no keyword. -/
structure IsName (s : String) : Prop where
  word : isWord s.toList = true
  notKeyword : s ∉ Ahead.keywords

namespace IsName

variable {s : String}

def asWord (h : IsName s) : Word := .of s h.word

theorem asWord_notKeyword (h : IsName s) : h.asWord.text ∉ Ahead.keywords := h.notKeyword

end IsName

/-- In front of what ends a word the text has these token trees. -/
def Spells (cs : List Char) (ts : List TokenTree) : Prop :=
  ∀ rest, endsWord rest.head? = true → Reads (cs ++ rest) ts rest

theorem IsName.spells {s : String} (h : IsName s) : Spells s.toList [.word h.asWord] := by
  intro rest hrest
  simpa [asWord] using Reads.word h.word hrest

/-- The rest of a line after `//`, which says nothing about the code. -/
structure IsRemark (line : String) : Prop where
  lineFeed : '\n' ∉ line.toList
  carriageReturn : '\r' ∉ line.toList
  bang : line.toList.head? ≠ some '!'
  slash : line.toList.head? ≠ some '/'

/-- In front of a closing parenthesis the text has these token trees, whatever comes after it. -/
def ReadsInParens (cs : List Char) (ts : List TokenTree) : Prop :=
  ∀ rest, Reads (cs ++ ')' :: rest) ts (')' :: rest)

/-- A part of a source text. -/
inductive Piece where
  | blank (c : Char)
  | remark (line : String) (h : IsRemark line)
  /-- A comment that documents what follows. -/
  | doc (line : String)
  | word (w : Word)
  /-- What stands where a name is expected. -/
  | spelled (cs : List Char) (ts : List TokenTree) (h : Spells cs ts)
  | lifetime (w : Word)
  | punct (c : Char) (joint : Bool)
  | quoted (s : String)
  | group (d : Delimiter) (inner : List Piece)
  /-- The end of what stands in parentheses. -/
  | embedded (cs : List Char) (ts : List TokenTree) (h : ReadsInParens cs ts)

namespace Piece

mutual

def chars : Piece → List Char
  | blank c => [c]
  | remark line _ => '/' :: '/' :: line.toList
  | doc line => '/' :: '/' :: '/' :: line.toList
  | word w => w.text.toList
  | spelled cs _ _ => cs
  | lifetime w => '\'' :: w.text.toList
  | punct c _ => [c]
  | quoted s => Text.Quoted.encode s.toList
  | group d inner => d.opening :: (charsAll inner ++ [d.closing])
  | embedded cs _ _ => cs

def charsAll : List Piece → List Char
  | [] => []
  | p :: ps => p.chars ++ charsAll ps

end

mutual

def trees : Piece → List TokenTree
  | blank _ | remark _ _ => []
  | doc line =>
    [.punct '#' false, .group .bracket [.word (.of "doc"), .punct '=' false,
      .literal (String.ofList (Text.Quoted.encodeBeforeDigits line.toList))]]
  | word w => [.word w]
  | spelled _ ts _ => ts
  | lifetime w => [.punct '\'' true, .word w]
  | punct c joint => [.punct c joint]
  | quoted s => [.literal (Text.Quoted.quote s)]
  | group d inner => [.group d (treesAll inner)]
  | embedded _ ts _ => ts

def treesAll : List Piece → List TokenTree
  | [] => []
  | p :: ps => p.trees ++ treesAll ps

end

/-! ## Where pieces end -/

mutual

/-- A piece is what it is meant to be, and ends where the next character stands. -/
def fits (next : Option Char) : Piece → Bool
  | blank c => isBlank c
  | remark _ _ => next = some '\n'
  | doc line =>
    next = some '\n' && !line.toList.contains '\n' && !line.toList.contains '\r' &&
      line.toList.head? ≠ some '/'
  | word w | lifetime w => !w.raw && endsWord next
  | spelled _ _ _ => endsWord next
  | punct c joint =>
    punctChars.contains c && !(['\'', '/'].contains c) && next ≠ some '/' && joint = isSign next
  | quoted _ => !next.any isWordStart
  | group d inner =>
    (d ≠ .paren || ((charsAll inner).head?.getD d.closing) ≠ '/') && fitsAll (some d.closing) inner
  | embedded _ _ _ => next = some ')'

/-- Pieces in a row, up to the next character. -/
def fitsAll (next : Option Char) : List Piece → Bool
  | [] => true
  | p :: ps => p.fits ((charsAll ps).head?.or next) && fitsAll next ps

end

@[simp]
theorem charsAll_append (ps qs : List Piece) :
    charsAll (ps ++ qs) = charsAll ps ++ charsAll qs := by
  induction ps with
  | nil => simp [charsAll]
  | cons p ps ih => simp [charsAll, ih]

@[simp]
theorem treesAll_append (ps qs : List Piece) :
    treesAll (ps ++ qs) = treesAll ps ++ treesAll qs := by
  induction ps with
  | nil => simp [treesAll]
  | cons p ps ih => simp [treesAll, ih]

/-! ## Reading pieces -/

variable {rest : List Char}

theorem cutLine_append {line : List Char} (hfeed : '\n' ∉ line) (hreturn : '\r' ∉ line) :
    cutLine (line ++ '\n' :: rest) = (line, '\n' :: rest) := by
  induction line with
  | nil => rfl
  | cons c line ih =>
    simp only [List.mem_cons, not_or] at hfeed hreturn
    rw [List.cons_append, cutLine, ih hfeed.2 hreturn.2]
    · exact fun h => hfeed.1 h.symm
    · exact fun _ h => absurd h.symm hreturn.1

theorem hasBareReturn_eq_false {line : List Char} (h : '\r' ∉ line) :
    hasBareReturn line = false := by
  induction line with
  | nil => rfl
  | cons c line ih =>
    simp only [List.mem_cons, not_or] at h
    rw [hasBareReturn, ih h.2]
    · exact fun _ hc => absurd hc.symm h.1
    · exact fun hc => absurd hc.symm h.1

/-- A remark up to the end of its line is read as nothing. -/
theorem reads_remark {line : List Char} (hfeed : '\n' ∉ line) (hreturn : '\r' ∉ line)
    (hbang : line.head? ≠ some '!') (hslash : line.head? ≠ some '/') :
    Reads ('/' :: '/' :: (line ++ '\n' :: rest)) [] ('\n' :: rest) := by
  refine .comment ?_
  rw [cutComment, cutLine_append hfeed hreturn]
  cases line with
  | nil => rfl
  | cons c line => simp_all

/-- A doc comment is read as the attribute that it stands for. -/
theorem reads_doc {line : List Char} (hfeed : '\n' ∉ line) (hreturn : '\r' ∉ line)
    (hslash : line.head? ≠ some '/') :
    Reads ('/' :: '/' :: '/' :: (line ++ '\n' :: rest))
      [.punct '#' false, .group .bracket [.word (.of "doc"), .punct '=' false,
        .literal (String.ofList (Text.Quoted.encodeBeforeDigits line))]] ('\n' :: rest) := by
  have hhead : (line ++ '\n' :: rest).head? ≠ some '/' := by
    cases line with
    | nil => simp
    | cons c line => simpa using hslash
  refine .doc (d := .outer line) (by decide) ?_ ?_ (hasBareReturn_eq_false hreturn)
    (by simp; omega) rfl
  · rw [cutComment, if_pos]
    simp only [List.head?_cons, List.drop_succ_cons, List.drop_zero]
    exact (Bool.or_eq_true _ _).mpr (.inr (by simpa using hhead))
  · rw [cutDoc, if_neg hhead, cutLine_append hfeed hreturn]

mutual

/-- A piece that fits is read as its trees. -/
theorem reads_chars : ∀ (p : Piece) (rest : List Char), p.fits rest.head? = true →
    Reads (p.chars ++ rest) p.trees rest
  | blank c, rest, h => .blank h
  | remark line hline, rest, h => by
    obtain ⟨rest, rfl⟩ := List.head?_eq_some_iff.1 (of_decide_eq_true h)
    exact reads_remark hline.lineFeed hline.carriageReturn hline.bang hline.slash
  | doc line, rest, h => by
    simp only [fits, Bool.and_eq_true, decide_eq_true_eq, Bool.not_eq_true',
      List.contains_eq_mem, decide_eq_false_iff_not] at h
    obtain ⟨⟨⟨hnext, hfeed⟩, hreturn⟩, hslash⟩ := h
    obtain ⟨rest, rfl⟩ := List.head?_eq_some_iff.1 hnext
    exact reads_doc hfeed hreturn hslash
  | word w, rest, h => by
    simp only [fits, Bool.and_eq_true, Bool.not_eq_true'] at h
    obtain ⟨_, s, hs⟩ := w
    obtain ⟨rfl, hend⟩ := h
    simpa [chars, trees, Word.text, Word.of] using Reads.word hs hend
  | spelled cs ts hcs, rest, h => hcs rest h
  | lifetime w, rest, h => by
    simp only [fits, Bool.and_eq_true, Bool.not_eq_true'] at h
    obtain ⟨_, s, hs⟩ := w
    obtain ⟨rfl, hend⟩ := h
    simpa [chars, trees, Word.text, Word.of] using Reads.lifetime hs hend
  | punct c joint, rest, h => by
    simp only [fits, Bool.and_eq_true, decide_eq_true_eq, Bool.not_eq_true',
      List.contains_eq_mem, decide_eq_false_iff_not] at h
    obtain ⟨⟨⟨hc, hne⟩, hslash⟩, rfl⟩ := h
    exact .punct hc hne hslash
  | quoted s, rest, h => .quoted s.toList (by simpa [fits] using h)
  | group d inner, rest, h => by
    simp only [fits, Bool.and_eq_true] at h
    have hinner := reads_charsAll inner (d.closing :: rest) h.2
    have hcs : (group d inner).chars ++ rest =
        d.opening :: (charsAll inner ++ d.closing :: rest) := by
      simp [chars]
    rw [hcs]
    refine .group d ?_ hinner
    rintro rfl
    have hopen := h.1
    cases hc : charsAll inner with
    | nil => simp [Delimiter.closing]
    | cons c cs => simpa [hc] using hopen
  | embedded cs ts hcs, rest, h => by
    obtain ⟨rest, rfl⟩ := List.head?_eq_some_iff.1 (of_decide_eq_true h)
    exact hcs rest

/-- Pieces that fit together are read as their trees. -/
theorem reads_charsAll : ∀ (ps : List Piece) (rest : List Char), fitsAll rest.head? ps = true →
    Reads (charsAll ps ++ rest) (treesAll ps) rest
  | [], rest, _ => .refl rest
  | p :: ps, rest, h => by
    simp only [fitsAll, Bool.and_eq_true] at h
    have hp := reads_chars p (charsAll ps ++ rest) (by rw [List.head?_append]; exact h.1)
    rw [charsAll, List.append_assoc]
    exact hp.append (reads_charsAll ps rest h.2)

end

end Piece

end EndpointStubs.Syntax
