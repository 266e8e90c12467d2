import EndpointStubs.Unicode.Printable

/-!
# Quoted texts

A quoted text stands between double quotes. Quotes, backslashes and the common controls are
written with a backslash, and characters that would not be seen, or would attach to their
neighbour, as `\u{…}` with their code point in hexadecimal. Reading is more liberal: it
knows further escapes, and a backslash before a line end skips the blanks that follow.

    encode s = '"' :: body ++ ['"']          read (body ++ '"' :: rest) = (s, rest)
-/

namespace EndpointStubs.Text.Quoted

/-! ## Writing -/

/-- A code point in hexadecimal. -/
def scalar (c : Char) : List Char :=
  '\\' :: 'u' :: '{' :: (Nat.toDigits 16 c.toNat ++ ['}'])

/-- How a character is written. -/
def escape (c : Char) : List Char :=
  if c = '\x00' then ['\\', '0']
  else if c = '\t' then ['\\', 't']
  else if c = '\r' then ['\\', 'r']
  else if c = '\n' then ['\\', 'n']
  else if c = '\\' || c = '"' then ['\\', c]
  else if Unicode.isAttaching c || !Unicode.isVisible c then scalar c
  else [c]

/-- Between double quotes, which need a backslash inside. -/
def encode (cs : List Char) : List Char := '"' :: (cs.flatMap escape ++ ['"'])

/-- Escapes in a row; before an octal digit, NUL is written with two digits, so that the digit
is not taken for a part of the escape. -/
def escapeBeforeDigits : List Char → List Char
  | [] => []
  | '\x00' :: cs =>
    (if cs.head?.any fun d => '0' ≤ d && d ≤ '7' then ['\\', 'x', '0', '0'] else ['\\', '0']) ++
      escapeBeforeDigits cs
  | c :: cs => escape c ++ escapeBeforeDigits cs

/-- Between double quotes, for readers that know octal escapes. -/
def encodeBeforeDigits (cs : List Char) : List Char := '"' :: (escapeBeforeDigits cs ++ ['"'])

def quote (s : String) : String := String.ofList (encode s.toList)

/-! ## Reading -/

/-- The value of a hexadecimal digit. -/
def hexDigit? (c : Char) : Option Nat :=
  if '0' ≤ c ∧ c ≤ '9' then some (c.toNat - 48)
  else if 'a' ≤ c ∧ c ≤ 'f' then some (c.toNat - 87)
  else if 'A' ≤ c ∧ c ≤ 'F' then some (c.toNat - 55)
  else none

/-- The character of a code point; surrogates and numbers beyond the last plane have none. -/
def charOf? (n : Nat) : Option Char :=
  if h : n.isValidChar then some (Char.ofNatAux n h) else none

/-- What may stand between the quotes of a kind of quoted text. -/
structure Form where
  /-- Characters that stand for themselves. -/
  allows : Char → Bool
  /-- Escapes of two digits stay below this number. -/
  hexLimit : Nat
  /-- Knows escapes of code points. -/
  scalars : Bool
  /-- May hold the character NUL, in any spelling. -/
  nul : Bool

def Form.text : Form := ⟨fun _ => true, 0x80, true, true⟩

def Form.bytes : Form := ⟨fun c => c.toNat < 0x80, 0x100, false, true⟩

/-- Texts that end in NUL, so hold none. -/
def Form.terminated : Form := ⟨fun c => c ≠ '\x00', 0x100, true, false⟩

/-- Where reading stands inside a quoted text. -/
inductive Place where
  | plain
  /-- After a carriage return, which only a line feed may follow. -/
  | afterReturn
  | afterBackslash
  | hexFirst
  | hexSecond (high : Nat)
  | scalarOpen
  | scalarDigits (value count : Nat)
  /-- After a backslash at a line end, where blanks are skipped. -/
  | skipping
  | skippingReturn

/-- What a character does: it ends the text, is refused, or yields characters. -/
inductive Step where
  | close
  | refuse
  | next (place : Place) (yield : List Char)

/-- Yields a character that an escape writes. -/
def Form.yield (f : Form) (c : Char) : Step :=
  if c = '\x00' && !f.nul then .refuse else .next .plain [c]

/-- A character among plain ones. -/
def Form.stepPlain (f : Form) (c : Char) : Step :=
  if c = '"' then .close
  else if c = '\\' then .next .afterBackslash []
  else if c = '\r' then .next .afterReturn []
  else if f.allows c then .next .plain [c]
  else .refuse

/-- A character after a backslash. -/
def Form.stepEscape (f : Form) (c : Char) : Step :=
  if c = 'n' then .next .plain ['\n']
  else if c = 'r' then .next .plain ['\r']
  else if c = 't' then .next .plain ['\t']
  else if c = '0' then f.yield '\x00'
  else if c = '\\' || c = '"' || c = '\'' then .next .plain [c]
  else if c = 'x' then .next .hexFirst []
  else if c = 'u' && f.scalars then .next .scalarOpen []
  else if c = '\n' then .next .skipping []
  else if c = '\r' then .next .skippingReturn []
  else .refuse

/-- A character inside the braces of a code point: up to six digits, underscores between. -/
def Form.stepScalar (f : Form) (value count : Nat) (c : Char) : Step :=
  match hexDigit? c with
  | some d => if count < 6 then .next (.scalarDigits (value * 16 + d) (count + 1)) [] else .refuse
  | none =>
    if count = 0 then .refuse
    else if c = '_' then .next (.scalarDigits value count) []
    else if c = '}' then
      match charOf? value with
      | some x => f.yield x
      | none => .refuse
    else .refuse

/-- What a character does at a place. -/
def Form.step (f : Form) : Place → Char → Step
  | .plain, c => f.stepPlain c
  | .afterReturn, c => if c = '\n' then .next .plain ['\n'] else .refuse
  | .afterBackslash, c => f.stepEscape c
  | .hexFirst, c =>
    match hexDigit? c with
    | some d => if d * 16 < f.hexLimit then .next (.hexSecond d) [] else .refuse
    | none => .refuse
  | .hexSecond high, c =>
    match hexDigit? c with
    | some d => f.yield (Char.ofNat (high * 16 + d))
    | none => .refuse
  | .scalarOpen, c => if c = '{' then .next (.scalarDigits 0 0) [] else .refuse
  | .scalarDigits value count, c => f.stepScalar value count c
  | .skipping, c =>
    if c = ' ' || c = '\t' || c = '\n' then .next .skipping []
    else if c = '\r' then .next .skippingReturn []
    else f.stepPlain c
  | .skippingReturn, c => if c = '\n' then .next .skipping [] else .refuse

/-- Reads on from a place: the characters of the text and what follows its closing quote. -/
def Form.readFrom (f : Form) : Place → List Char → Option (List Char × List Char)
  | _, [] => none
  | place, c :: cs =>
    match f.step place c with
    | .close => some ([], cs)
    | .refuse => none
    | .next place' yield => (f.readFrom place' cs).map fun r => (yield ++ r.1, r.2)

/-- Reads what follows an opening quote. -/
def read (cs : List Char) : Option (List Char × List Char) := Form.text.readFrom .plain cs

end EndpointStubs.Text.Quoted
