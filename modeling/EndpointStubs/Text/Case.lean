import EndpointStubs.Unicode.Casing

/-!
# Case of texts

Upper and lower case by the full case forms, and the ASCII fold that leaves other
characters alone. A sigma at the end of a word has a lower-case form of its own.
-/

namespace EndpointStubs.Text

/-- Every character in its upper-case form. -/
def upper (cs : List Char) : List Char := cs.flatMap Unicode.upperCase

/-- The next letter, past marks, is cased. -/
def startsCased (cs : List Char) : Bool :=
  match cs.dropWhile Unicode.isPassedOver with
  | c :: _ => Unicode.isCased c
  | [] => false

/-- Every character in its lower-case form; `cased` tells whether the last letter was cased. -/
def lowerFrom (cased : Bool) : List Char → List Char
  | [] => []
  | c :: cs =>
    let form := if c = 'Σ' && cased && !startsCased cs then ['ς'] else Unicode.lowerCase c
    form ++ lowerFrom (if Unicode.isPassedOver c then cased else Unicode.isCased c) cs

/-- Every character in its lower-case form. -/
def lower (cs : List Char) : List Char := lowerFrom false cs

/-- ASCII letters in lower case, everything else as it is. -/
def foldAscii (cs : List Char) : List Char := cs.map Char.toLower

/-- The first character in upper case, the rest untouched. -/
def capitalizeChars : List Char → List Char
  | [] => []
  | c :: cs => Unicode.upperCase c ++ cs

/-- The first character in upper case, the rest untouched. -/
def capitalize (s : String) : String := String.ofList (capitalizeChars s.toList)

end EndpointStubs.Text
