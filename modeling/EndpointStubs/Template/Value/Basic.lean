/-!
# Values of templates

Plain values, lists and maps are what they hold. Namespaces, macros and loops live while a
template is rendered: a value of these kinds has a number that says which one it is, and shows
its state at the time when it was read.

    entries? v = some es     `v` is like a map, with these entries
    items? v = some vs       a loop can go through `v`, and sees these values
-/

namespace EndpointStubs.Template

/-- The functions that every template knows. -/
inductive Builtin where
  | range
  | dict
  | debug
  | space
  deriving DecidableEq, Repr

/-- The path by which a function is printed. -/
def Builtin.path (f : Builtin) : String :=
  "minijinja::functions::builtins::" ++
    match f with
    | range => "range"
    | dict => "dict"
    | debug => "debug"
    | space => "namespace"

/-- What a list is beside its items. -/
structure ListForm where
  /-- A sequence rather than something to go through. -/
  isSequence : Bool := true
  /-- Its length is known beforehand. -/
  isSized : Bool := true
  /-- A pair of a key and the list of what has that key. -/
  isGroup : Bool := false
  /-- Which list it is; 0 for a list that no name has been given. -/
  identity : Nat := 0
  deriving DecidableEq, Repr

inductive Value where
  /-- What an unknown name stands for. -/
  | undefined
  | none
  | bool (b : Bool)
  | int (n : Int)
  | float (x : Float)
  /-- A text; a safe one is not escaped again. -/
  | string (s : String) (safe : Bool)
  | list (form : ListForm) (items : List Value)
  /-- Entries in the order of their keys. -/
  | map (identity : Nat) (entries : List (Value × Value))
  /-- A map that assignments change. -/
  | space (index : Nat) (entries : List (Value × Value))
  /-- What another template assigns, with the text that it prints. -/
  | unit (entries : List (Value × Value)) (printed : String)
  /-- A macro. -/
  | callable (index : Nat) (name : String) (params : List String) (usesCaller : Bool)
  | function (f : Builtin)
  /-- The state of a loop: position, number of rounds, depth and neighbours. -/
  | loop (index position : Nat) (count? : Option Nat) (depth : Nat) (previous : Value)
      (next? : Option Value)

namespace Value

instance : Inhabited Value := ⟨.undefined⟩

/-- A text that is escaped where it is printed. -/
def ofString (s : String) : Value := string s false

def ofChars (cs : List Char) : Value := ofString (String.ofList cs)

def ofList (items : List Value) : Value := list {} items

/-- Values that are computed one after the other. -/
def stream (items : List Value) : Value := list { isSequence := false } items

/-- A stream whose length is not known beforehand. -/
def unsized (items : List Value) : Value := list { isSequence := false, isSized := false } items

def ofNat (n : Nat) : Value := int n

/-! ## Kinds -/

def isUndefined : Value → Bool
  | undefined => true
  | _ => false

/-- Undefined or none: counts as an argument that is not there. -/
def isAbsent : Value → Bool
  | undefined | none => true
  | _ => false

def isNumber : Value → Bool
  | int _ | float _ => true
  | _ => false

def isInteger : Value → Bool
  | int _ => true
  | _ => false

def isSafe : Value → Bool
  | string _ safe => safe
  | _ => false

def string? : Value → Option String
  | string s _ => some s
  | _ => Option.none

/-- The order of kinds. -/
def kind : Value → Nat
  | undefined => 0
  | none => 1
  | bool _ => 2
  | int _ | float _ => 3
  | string _ _ => 4
  | list form _ => if form.isSequence then 6 else 8
  | map .. | space .. | unit .. | callable .. | loop .. => 7
  | function _ => 9

/-! ## Entries -/

def field (name : String) (v : Value) : Value × Value := (ofString name, v)

/-- The state of a loop by name. -/
def loopFields (position : Nat) (count? : Option Nat) (depth : Nat) (previous : Value)
    (next? : Option Value) : List (Value × Value) :=
  let counted (f : Nat → Nat) : Value := count?.elim undefined fun n => ofNat (f n)
  [field "index0" (ofNat position),
   field "index" (ofNat (position + 1)),
   field "length" (counted id),
   field "revindex" (counted fun n => n - position),
   field "revindex0" (counted fun n => n - position - 1),
   field "first" (bool (position = 0)),
   field "last" (bool next?.isNone),
   field "depth" (ofNat (depth + 1)),
   field "depth0" (ofNat depth),
   field "previtem" previous,
   field "nextitem" (next?.getD undefined)]

/-- The entries of a value that is like a map. -/
def entries? : Value → Option (List (Value × Value))
  | map _ entries | space _ entries | unit entries _ => some entries
  | callable _ name params usesCaller =>
    some [field "name" (ofString name), field "arguments" (ofList (params.map ofString)),
      field "caller" (bool usesCaller)]
  | loop _ position count? depth previous next? =>
    some (loopFields position count? depth previous next?)
  | _ => Option.none

/-- The values that a loop goes through. -/
def items? : Value → Option (List Value)
  | undefined | none => some []
  | list _ items => some items
  | string s _ => some (s.toList.map fun c => ofChars [c])
  | v => v.entries?.map fun es => es.map Prod.fst

/-- The items of a value that is not a text. -/
def objectItems? : Value → Option (List Value)
  | undefined | none | string .. => Option.none
  | v => v.items?

/-- The number of characters or items, if it is known. -/
def length? : Value → Option Nat
  | string s _ => some s.length
  | list form items => if form.isSized then some items.length else Option.none
  | v => v.entries?.map List.length

/-- Counts as true. -/
def truthy : Value → Bool
  | undefined | none => false
  | bool b => b
  | int n => n ≠ 0
  | float x => !(x == 0)
  | string s _ => s ≠ ""
  | function _ => true
  | v => v.length? ≠ some 0

end Value

end EndpointStubs.Template
