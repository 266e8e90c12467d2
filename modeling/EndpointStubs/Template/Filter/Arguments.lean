import EndpointStubs.Template.Value.Item

/-!
# Arguments of filters, tests and functions

Arguments are given by position, and after them by name. Where names are not asked for, the
named arguments are one more positional argument: the map of them.

    a.all = a.positional                            when nothing is named
    a.all = a.positional ++ [the map of the names]  otherwise
-/

namespace EndpointStubs.Template

structure Args where
  positional : List Value := []
  named? : Option (List (String × Value)) := none

namespace Args

/-- Names as the keys of a map. -/
def mapOf (named : List (String × Value)) : Value :=
  .ofEntries (named.map fun x => Value.field x.1 x.2)

/-- All arguments, the named ones as one map. -/
def all (a : Args) : List Value := a.positional ++ (a.named?.map mapOf).toList

def withName (a : Args) (name : String) (v : Value) : Args :=
  { a with named? := some ((a.named?.getD []) ++ [(name, v)]) }

/-! ## By position -/

def atMost (a : Args) (n : Nat) : Option Unit := if a.all.length ≤ n then some () else none

/-- The argument at a place; what is undefined or none counts as not there. -/
def given? (a : Args) (i : Nat) : Option Value := a.all[i]?.filter fun v => !v.isAbsent

/-- The text of the argument at a place. Names are no text. -/
def text (a : Args) (i : Nat) : Option String := a.positional[i]?.map Value.text

/-- The text of the argument at a place, if it is there. -/
def text? (a : Args) (i : Nat) : Option (Option String) :=
  match a.given? i with
  | none => some none
  | some _ => (a.text i).map some

/-- The truth value at a place, false if it is not there. Other values do not count. -/
def flag (a : Args) (i : Nat) : Option Bool :=
  match a.given? i with
  | none => some false
  | some (.bool b) => some b
  | some _ => none

/-- The whole number at a place, if it is there. -/
def whole? (a : Args) (i : Nat) : Option (Option Int) :=
  match a.given? i with
  | none => some none
  | some v => v.place?.map some

/-- The number that counts at a place. -/
def count (a : Args) (i : Nat) : Option Nat := a.all[i]?.bind Value.count?

/-! ## By name -/

/-- The argument of a name; the last one counts. -/
def get? (a : Args) (name : String) : Option Value := ((a.named?.getD []).reverse.lookup name)

/-- The argument of a name; what is undefined or none counts as not there. -/
def present? (a : Args) (name : String) : Option Value := (a.get? name).filter fun v => !v.isAbsent

/-- The truth value of a name, false if it is not there. -/
def namedFlag (a : Args) (name : String) : Option Bool :=
  match a.present? name with
  | none => some false
  | some (.bool b) => some b
  | some _ => none

def namedText? (a : Args) (name : String) : Option (Option String) :=
  match a.present? name with
  | none => some none
  | some v => v.string?.map some

def onlyNames (a : Args) (names : List String) : Option Unit :=
  if (a.named?.getD []).all fun x => names.contains x.1 then some () else none

end Args

end EndpointStubs.Template
