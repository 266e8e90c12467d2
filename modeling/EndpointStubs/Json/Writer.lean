import EndpointStubs.Json.Basic
import EndpointStubs.Text.Pieces

/-!
# Writing JSON

On one line, or indented by two blanks per level. Only quotes, backslashes and controls are
escaped; a string without text is written as the empty one.
-/

namespace EndpointStubs.Json

def hexFour (n : Nat) : List Char :=
  let digits := Nat.toDigits 16 n
  List.replicate (4 - digits.length) '0' ++ digits

/-- A character inside a string. -/
def escape (c : Char) : List Char :=
  if c = '"' then ['\\', '"']
  else if c = '\\' then ['\\', '\\']
  else if c = '\n' then ['\\', 'n']
  else if c = '\r' then ['\\', 'r']
  else if c = '\t' then ['\\', 't']
  else if c = '\x08' then ['\\', 'b']
  else if c = '\x0c' then ['\\', 'f']
  else if c.toNat < 0x20 then '\\' :: 'u' :: hexFour c.toNat
  else [c]

def writeString (s : String) : List Char :=
  '"' :: (s.toList.flatMap escape ++ ['"'])

mutual

def write : Json → List Char
  | null => "null".toList
  | bool true => "true".toList
  | bool false => "false".toList
  | number digits => digits.toList
  | string text => writeString (text.getD "")
  | array items => '[' :: (Text.join [','] (writeItems items) ++ [']'])
  | object fields => '{' :: (Text.join [','] (writeFields fields) ++ ['}'])

def writeItems : List Json → List (List Char)
  | [] => []
  | j :: js => write j :: writeItems js

def writeFields : List (Option String × Json) → List (List Char)
  | [] => []
  | (name, j) :: fs => (writeString (name.getD "") ++ ':' :: write j) :: writeFields fs

end

def compact (j : Json) : String := String.ofList j.write

/-- A new line with the indentation of a level. -/
def newline (level : Nat) : List Char := '\n' :: List.replicate (2 * level) ' '

mutual

/-- A value whose items and fields stand on lines of their own. -/
def writeIndented (level : Nat) : Json → List Char
  | array (j :: js) =>
    '[' :: (newline (level + 1) ++ Text.join (',' :: newline (level + 1))
      (writeIndented (level + 1) j :: indentedItems (level + 1) js) ++ newline level ++ [']'])
  | object (f :: fs) =>
    '{' :: (newline (level + 1) ++ Text.join (',' :: newline (level + 1))
      (indentedFields (level + 1) (f :: fs)) ++ newline level ++ ['}'])
  | j => write j

def indentedItems (level : Nat) : List Json → List (List Char)
  | [] => []
  | j :: js => writeIndented level j :: indentedItems level js

def indentedFields (level : Nat) : List (Option String × Json) → List (List Char)
  | [] => []
  | (name, j) :: fs =>
    (writeString (name.getD "") ++ ':' :: ' ' :: writeIndented level j) :: indentedFields level fs

end

/-- A value on indented lines. -/
def pretty (j : Json) : String := String.ofList (j.writeIndented 0)

end EndpointStubs.Json
