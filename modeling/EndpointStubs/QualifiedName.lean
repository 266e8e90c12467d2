import EndpointStubs.Text.Pieces
import EndpointStubs.Unicode.Alphanumeric

/-!
# Qualified names

A qualified name is a package and a simple name with a dot between them; the package may
hold dots, the simple name is what follows the last one. A name without dot has the empty
package, and joining leaves the dot of an empty package out.
-/

namespace EndpointStubs

namespace QualifiedName

/-- Package and simple name. -/
def split (name : String) : String × String :=
  match Text.splitAtLast '.' name.toList with
  | some (package, simple) => (String.ofList package, String.ofList simple)
  | none => ("", name)

/-- The name of `simple` in `package`. -/
def qualify (package simple : String) : String :=
  if package = "" then simple else package ++ "." ++ simple

/-- What stands between the dots. -/
def segments (name : String) : List String := Text.splitString '.' name

/-- A character of a segment: a letter or number in any script, `_` or `$`. -/
def isSegmentChar (c : Char) : Bool :=
  Unicode.isAlphanumeric c || c = '_' || c = '$'

/-- May stand between the dots of a name that becomes a path. -/
def isSegment (s : String) : Bool :=
  s ≠ "" && s.toList.all isSegmentChar

end QualifiedName

end EndpointStubs
