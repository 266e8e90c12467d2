import EndpointStubs.Text.Blank
import EndpointStubs.Text.Case
import EndpointStubs.Text.Pieces

/-!
# Filters of texts

Case of words, pieces of texts, indented lines and escaped markup, on lists of characters.

    lines (join ['\n'] ls ++ ['\n']) = ls      when no line holds an end of line
-/

namespace EndpointStubs.Template.Words

/-! ## Case -/

/-- Ends a word: a blank or ASCII punctuation. -/
def endsWord (c : Char) : Bool :=
  Text.isBlank c || (0x20 < c.toNat && c.toNat < 0x7f && !c.isAlphanum)

/-- Upper case for the first letter of a word, lower case for the others. -/
def title : Bool → List Char → List Char
  | _, [] => []
  | first, c :: cs =>
    if endsWord c then c :: title true cs
    else (if first then Unicode.upperCase c else Unicode.lowerCase c) ++ title false cs

/-- Upper case for the first character, lower case for the others. -/
def capitalize : List Char → List Char
  | [] => []
  | c :: cs => Unicode.upperCase c ++ Text.lower cs

/-! ## Pieces -/

/-- Without the characters of a set on either side. -/
def trimSet (set cs : List Char) : List Char :=
  ((cs.dropWhile set.contains).reverse.dropWhile set.contains).reverse

/-- Cuts at a text, at most `n` times; `current` holds the piece so far, reversed. -/
def cutAt (sep : List Char) : Nat → Nat → List Char → List Char → List (List Char)
  | 0, _, current, cs => [current.reverse ++ cs]
  | _, 0, current, cs => [current.reverse ++ cs]
  | fuel + 1, n + 1, current, cs =>
    match sep.isPrefixOf? cs with
    | some rest =>
      if sep = [] then
        match cs with
        | [] => [current.reverse, []]
        | c :: cs => current.reverse :: cutAt sep fuel n [c] cs
      else current.reverse :: cutAt sep fuel n [] rest
    | none =>
      match cs with
      | [] => [current.reverse]
      | c :: cs => cutAt sep fuel (n + 1) (c :: current) cs

/-- The pieces between occurrences of a text, of which at most `max?` count. -/
def splitAt (sep cs : List Char) (max? : Option Nat) : List (List Char) :=
  cutAt sep (2 * cs.length + 3) (max?.getD (cs.length + 2)) [] cs

/-- The words of a text, at most `n` of them cut off; the rest is the last one. -/
def words : Nat → List Char → List (List Char)
  | 0, cs => if Text.trimStart cs = [] then [] else [Text.trimStart cs]
  | n + 1, cs =>
    match Text.trimStart cs with
    | [] => []
    | c :: cs =>
      let (word, rest) := (c :: cs).span fun c => !Text.isBlank c
      word :: words n rest

/-- The pieces of a text between blanks or between occurrences of a text. -/
def split (cs : List Char) (sep? : Option (List Char)) (max? : Option Nat) : List (List Char) :=
  match sep? with
  | some sep => splitAt sep cs max?
  | none => words (max?.getD cs.length) cs

/-- A text with one text put for another. -/
def replace (old new cs : List Char) : List Char := Text.join new (splitAt old cs none)

/-! ## Lines -/

/-- The lines of a text, without their ends. -/
def lines (cs : List Char) : List (List Char) :=
  let ls := Text.pieces '\n' cs
  let ls := if ls.getLast? = some [] then ls.dropLast else ls
  ls.map fun l => if l.getLast? = some '\r' then l.dropLast else l

def withoutLineEnd (cs : List Char) : List Char :=
  let cs := if cs.getLast? = some '\n' then cs.dropLast else cs
  if cs.getLast? = some '\r' then cs.dropLast else cs

/-- Lines after the first are indented; blank ones, and the first, on request. -/
def indent (width : Nat) (first blank : Bool) (cs : List Char) : List Char :=
  let pad := List.replicate width ' '
  let pieces := (Text.pieces '\n' (withoutLineEnd cs)).zipIdx.map fun (l, i) =>
    if i = 0 && !first then l
    else if l = [] && !blank then l
    else pad ++ l
  withoutLineEnd (Text.join ['\n'] pieces ++ ['\n'])

/-! ## Markup -/

/-- Characters with a meaning in markup are written as entities. -/
def escape (cs : List Char) : List Char :=
  cs.flatMap fun c =>
    if c = '<' then "&lt;".toList
    else if c = '>' then "&gt;".toList
    else if c = '&' then "&amp;".toList
    else if c = '"' then "&quot;".toList
    else if c = '\'' then "&#x27;".toList
    else if c = '/' then "&#x2f;".toList
    else [c]

end EndpointStubs.Template.Words
