/-!
# JSON values
-/

namespace EndpointStubs

/-- A JSON value. Numbers keep their digits. A string whose escapes hold half a surrogate
pair has no text; such a string can be skipped but not used. -/
inductive Json where
  | null
  | bool (b : Bool)
  | number (digits : String)
  | string (text? : Option String)
  | array (items : List Json)
  | object (fields : List (Option String × Json))

namespace Json

instance : Inhabited Json := ⟨null⟩

def ofString (s : String) : Json := .string (some s)

def ofNat (n : Nat) : Json := .number (toString n)

/-- A string, or null. -/
def ofString? : Option String → Json
  | some s => ofString s
  | none => null

/-- An object with named fields. -/
def ofFields (fields : List (String × Json)) : Json :=
  .object (fields.map fun f => (some f.1, f.2))

def ofStrings (ss : List String) : Json := .array (ss.map ofString)

def text? : Json → Option String
  | string t => t
  | _ => none

def items? : Json → Option (List Json)
  | array items => some items
  | _ => none

def fields? : Json → Option (List (Option String × Json))
  | object fields => some fields
  | _ => none

def isNull : Json → Bool
  | null => true
  | _ => false

/-- The last field of that name. -/
def field? (j : Json) (name : String) : Option Json :=
  j.fields?.bind fun fs => (fs.reverse.find? fun f => f.1 = some name).map Prod.snd

end Json

end EndpointStubs
