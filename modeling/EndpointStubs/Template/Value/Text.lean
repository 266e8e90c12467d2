import EndpointStubs.Decimal.Shortest
import EndpointStubs.Template.Value.Basic
import EndpointStubs.Text.Pieces
import EndpointStubs.Text.Quoted

/-!
# Values as text

A text is printed as it is and the undefined as nothing. Inside lists and maps a text stands in
quotes, and a double that is very large or very small has an exponent. Laid out on lines, every
item has a line of its own, indented below its list.
-/

namespace EndpointStubs.Template.Value

/-- The printed state of a loop. -/
def loopText (position : Nat) (count? : Option Nat) : String :=
  "<loop " ++ toString position ++ "/" ++ count?.elim "?" toString ++ ">"

mutual

/-- The value as it is printed inside a list or map. -/
def innerText : Value → String
  | undefined => "undefined"
  | none => "None"
  | bool true => "True"
  | bool false => "False"
  | int n => toString n
  | float x => String.ofList (Decimal.inner x)
  | string s _ => Text.Quoted.quote s
  | list form items =>
    if form.isSized then "[" ++ Text.joinStrings ", " (itemTexts items) ++ "]" else "<iterator>"
  | map _ entries | space _ entries =>
    "\x7b" ++ Text.joinStrings ", " (entryTexts entries) ++ "\x7d"
  | unit _ printed => printed
  | callable _ name _ _ => "<macro " ++ name ++ ">"
  | function f => f.path
  | loop _ position count? _ _ _ => loopText position count?

/-- The printed items of a list. -/
def itemTexts : List Value → List String
  | [] => []
  | v :: vs => innerText v :: itemTexts vs

/-- The printed entries of a map. -/
def entryTexts : List (Value × Value) → List String
  | [] => []
  | (k, v) :: es => (innerText k ++ ": " ++ innerText v) :: entryTexts es

end

def text : Value → String
  | undefined => ""
  | string s _ => s
  | float x => String.ofList (Decimal.text x)
  | v => v.innerText

/-- The characters that are printed. -/
def chars (v : Value) : List Char := v.text.toList

/-! ## On lines -/

/-- A line of its own below an opening bracket; the lines of the item are indented. -/
def indented (s : String) : String :=
  String.ofList ("    ".toList ++ Text.join "\n    ".toList (Text.pieces '\n' s.toList)) ++ ",\n"

mutual

/-- The value with every item on a line of its own. -/
def laidOut : Value → String
  | list form items =>
    if !form.isSized then "<iterator>"
    else if items.isEmpty then "[]"
    else "[\n" ++ laidOutItems items ++ "]"
  | map _ entries | space _ entries =>
    if entries.isEmpty then "\x7b\x7d" else "\x7b\n" ++ laidOutEntries entries ++ "\x7d"
  | v => innerText v

def laidOutItems : List Value → String
  | [] => ""
  | v :: vs => indented (laidOut v) ++ laidOutItems vs

def laidOutEntries : List (Value × Value) → String
  | [] => ""
  | (k, v) :: es => indented (laidOut k ++ ": " ++ laidOut v) ++ laidOutEntries es

end

end EndpointStubs.Template.Value
