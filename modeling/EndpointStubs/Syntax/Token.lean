import EndpointStubs.Syntax.Word
import EndpointStubs.Text.Blank
import EndpointStubs.Text.Pieces
import EndpointStubs.Unicode.Alphanumeric

/-!
# Token trees

Source text is a sequence of token trees: words, punctuation characters, literals, and
groups between delimiters. Tokens are printed with one blank between neighbours; the compact
form drops every blank that does not keep two words apart, and sets one after each comma.

    compact (compact cs) = compact cs
-/

namespace EndpointStubs.Syntax

inductive Delimiter where
  | paren
  | bracket
  | brace
  deriving DecidableEq, Repr

def Delimiter.opening : Delimiter → Char
  | paren => '('
  | bracket => '['
  | brace => '{'

def Delimiter.closing : Delimiter → Char
  | paren => ')'
  | bracket => ']'
  | brace => '}'

/-- A token, or a group of tokens. -/
inductive TokenTree where
  | word (w : Word)
  /-- A punctuation character; `joint` says that the next token follows without a blank. -/
  | punct (c : Char) (joint : Bool)
  | literal (text : String)
  | group (d : Delimiter) (inner : List TokenTree)

instance : Inhabited TokenTree := ⟨.literal ""⟩

namespace TokenTree

/-! ## Size -/

mutual

/-- The number of tokens, a group counted with all in it. -/
def size : TokenTree → Nat
  | group _ inner => sizeAll inner + 1
  | _ => 1

/-- The number of tokens in all of the trees. -/
def sizeAll : List TokenTree → Nat
  | [] => 0
  | t :: ts => t.size + sizeAll ts

end

/-! ## Printing -/

/-- No blank follows. -/
def isJoint : TokenTree → Bool
  | punct _ joint => joint
  | _ => false

mutual

def print : TokenTree → List Char
  | word w => w.text.toList
  | punct c _ => [c]
  | literal text => text.toList
  | group .brace [] => ['{', ' ', '}']
  | group .brace (t :: ts) => '{' :: ' ' :: (printAll (t :: ts) ++ [' ', '}'])
  | group d ts => d.opening :: (printAll ts ++ [d.closing])

/-- Token trees as text, with blanks between. -/
def printAll : List TokenTree → List Char
  | [] => []
  | [t] => t.print
  | t :: u :: ts =>
    t.print ++ (if t.isJoint then [] else [' ']) ++ printAll (u :: ts)

end

end TokenTree

/-! ## Compact text -/

/-- A character of a word: a letter or number in any script, `_`, or the mark of a lifetime. -/
def isWordChar (c : Char) : Bool := Unicode.isAlphanumeric c || c = '_' || c = '\''

/-- Drops blanks, except between two characters of words, and sets one after each comma;
`before` is the last character that was kept. -/
def squeeze : Option Char → List Char → List Char
  | _, [] => []
  | before, c :: cs =>
    if c = ' ' then
      if before.any isWordChar && cs.head?.any isWordChar then ' ' :: squeeze before cs
      else squeeze before cs
    else if c = ',' then ',' :: ' ' :: squeeze (some c) cs
    else c :: squeeze (some c) cs

/-- A text of tokens without the blanks that it does not need. -/
def compact (cs : List Char) : List Char := Text.trimEnd (squeeze none cs)

/-- Token trees in compact form. -/
def compactText (ts : List TokenTree) : String :=
  String.ofList (compact (TokenTree.printAll ts))

end EndpointStubs.Syntax
