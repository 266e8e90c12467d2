import EndpointStubs.Json.Basic
import EndpointStubs.Text.Quoted

/-!
# Reading JSON

The grammar of JSON without extensions: four blanks, six literals' forms, escapes of four
hexadecimal digits that may pair up to one character.

    Json.read s = some j ↔ all of s is one value j between blanks
-/

namespace EndpointStubs.Json

/-- The four blanks between tokens. -/
def isBlank (c : Char) : Bool := c = ' ' || c = '\t' || c = '\n' || c = '\r'

def skipBlanks (cs : List Char) : List Char := cs.dropWhile isBlank

/-! ## Strings -/

/-- The number that four hexadecimal digits write. -/
def hexFour? (a b c d : Char) : Option Nat := do
  let a ← Text.Quoted.hexDigit? a
  let b ← Text.Quoted.hexDigit? b
  let c ← Text.Quoted.hexDigit? c
  let d ← Text.Quoted.hexDigit? d
  return ((a * 16 + b) * 16 + c) * 16 + d

/-- The character of a one-letter escape. -/
def shortEscape? : Char → Option Char
  | '"' => some '"'
  | '\\' => some '\\'
  | '/' => some '/'
  | 'b' => some '\x08'
  | 'f' => some '\x0c'
  | 'n' => some '\n'
  | 'r' => some '\r'
  | 't' => some '\t'
  | _ => none

/-- The code units after an opening quote, and what follows the closing one. A character
that is not escaped is one unit, however large. -/
def readUnits : List Char → Option (List Nat × List Char)
  | [] => none
  | '"' :: cs => some ([], cs)
  | '\\' :: 'u' :: a :: b :: c :: d :: cs =>
    match hexFour? a b c d with
    | some n => (readUnits cs).map fun r => (n :: r.1, r.2)
    | none => none
  | '\\' :: e :: cs =>
    match shortEscape? e with
    | some c => (readUnits cs).map fun r => (c.toNat :: r.1, r.2)
    | none => none
  | c :: cs =>
    if c = '\\' || c.toNat < 0x20 then none
    else (readUnits cs).map fun r => (c.toNat :: r.1, r.2)

/-- The characters of code units; surrogates count only in pairs. -/
def characters? : List Nat → Option (List Char)
  | [] => some []
  | h :: us =>
    if 0xd800 ≤ h ∧ h < 0xdc00 then
      match us with
      | l :: us' =>
        if 0xdc00 ≤ l ∧ l < 0xe000 then
          (characters? us').map (Char.ofNat (0x10000 + (h - 0xd800) * 0x400 + (l - 0xdc00)) :: ·)
        else none
      | [] => none
    else
      match Text.Quoted.charOf? h with
      | some c => (characters? us).map (c :: ·)
      | none => none

/-- The string after an opening quote. -/
def readString (cs : List Char) : Option (Option String × List Char) :=
  (readUnits cs).map fun r => ((characters? r.1).map String.ofList, r.2)

/-! ## Numbers -/

def cutDigits (cs : List Char) : List Char × List Char := cs.span Char.isDigit

/-- At least one digit in front. -/
def cutSomeDigits (cs : List Char) : Option (List Char × List Char) :=
  match cutDigits cs with
  | ([], _) => none
  | r => some r

/-- An integer part: zero, or digits that do not start with zero. -/
def cutInteger : List Char → Option (List Char × List Char)
  | '0' :: cs => some (['0'], cs)
  | cs => cutSomeDigits cs

/-- A fraction, if a point is there. -/
def cutFraction : List Char → Option (List Char × List Char)
  | '.' :: cs => (cutSomeDigits cs).map fun r => ('.' :: r.1, r.2)
  | cs => some ([], cs)

/-- The sign in front of an exponent. -/
def cutSign : List Char → List Char × List Char
  | '+' :: cs => (['+'], cs)
  | '-' :: cs => (['-'], cs)
  | cs => ([], cs)

/-- An exponent, if a mark is there. -/
def cutExponent : List Char → Option (List Char × List Char)
  | c :: cs =>
    if c = 'e' || c = 'E' then
      let (sign, cs) := cutSign cs
      (cutSomeDigits cs).map fun r => (c :: (sign ++ r.1), r.2)
    else some ([], c :: cs)
  | [] => some ([], [])

def readNumber (cs : List Char) : Option (Json × List Char) := do
  let (sign, cs) := match cs with
    | '-' :: cs => (['-'], cs)
    | cs => ([], cs)
  let (whole, cs) ← cutInteger cs
  let (fraction, cs) ← cutFraction cs
  let (exponent, cs) ← cutExponent cs
  return (.number (String.ofList (sign ++ whole ++ fraction ++ exponent)), cs)

/-! ## Values -/

mutual

def readValue : Nat → List Char → Option (Json × List Char)
  | 0, _ => none
  | fuel + 1, cs =>
    match skipBlanks cs with
    | '"' :: cs => (readString cs).map fun r => (.string r.1, r.2)
    | '[' :: cs =>
      match skipBlanks cs with
      | ']' :: cs => some (.array [], cs)
      | cs => (readItems fuel cs).map fun r => (.array r.1, r.2)
    | '{' :: cs =>
      match skipBlanks cs with
      | '}' :: cs => some (.object [], cs)
      | cs => (readFields fuel cs).map fun r => (.object r.1, r.2)
    | 'n' :: 'u' :: 'l' :: 'l' :: cs => some (.null, cs)
    | 't' :: 'r' :: 'u' :: 'e' :: cs => some (.bool true, cs)
    | 'f' :: 'a' :: 'l' :: 's' :: 'e' :: cs => some (.bool false, cs)
    | cs => readNumber cs

/-- Items up to the closing bracket. -/
def readItems : Nat → List Char → Option (List Json × List Char)
  | 0, _ => none
  | fuel + 1, cs => do
    let (item, cs) ← readValue fuel cs
    match skipBlanks cs with
    | ',' :: cs =>
      let (items, cs) ← readItems fuel cs
      return (item :: items, cs)
    | ']' :: cs => return ([item], cs)
    | _ => none

/-- Fields up to the closing brace. -/
def readFields : Nat → List Char → Option (List (Option String × Json) × List Char)
  | 0, _ => none
  | fuel + 1, cs => do
    match skipBlanks cs with
    | '"' :: cs =>
      let (name, cs) ← readString cs
      match skipBlanks cs with
      | ':' :: cs =>
        let (value, cs) ← readValue fuel cs
        match skipBlanks cs with
        | ',' :: cs =>
          let (fields, cs) ← readFields fuel cs
          return ((name, value) :: fields, cs)
        | '}' :: cs => return ([(name, value)], cs)
        | _ => none
      | _ => none
    | _ => none

end

/-- The value that a text writes. -/
def read (s : String) : Option Json :=
  let cs := s.toList
  match readValue (2 * cs.length + 2) cs with
  | some (j, rest) => if skipBlanks rest = [] then some j else none
  | none => none

end EndpointStubs.Json
