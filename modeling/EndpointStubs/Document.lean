/-!
# Documents

Declarations and settings are read from documents of several formats. What a reader needs to
know of a format is a view of its values: which are texts, lists, named fields, nothing.

A record is a list of its values in order, or its fields by name. Names that are missing are
left to the reader, and a name may not occur twice.
-/

namespace EndpointStubs

/-- How the values of a format are seen. -/
structure View (D : Type) where
  /-- The text of a value. -/
  text? : D → Option String
  /-- Whether a value stands for the absence of an optional one; unknown if it says so and
  holds something. -/
  nothing? : D → Option Bool
  /-- The items of a list. -/
  items? : D → Option (List D)
  /-- The values of a record that is written as a list. -/
  inOrder? : D → Option (List D)
  /-- The fields of a record; a name that is no text is missing. -/
  fields? : D → Option (List (Option String × D))
  /-- The name of a choice without content. -/
  choice? : D → Option String

namespace View

variable {D : Type} (v : View D)

/-- The only value under a name, if any. -/
def single? (fields : List (Option String × D)) (name : String) : Option (Option D) :=
  match fields.filter fun f => f.1 = some name with
  | [] => some none
  | [f] => some (some f.2)
  | _ => none

/-- The values of a record's names. Further names are skipped unless the record is closed. -/
def record? (names : List String) (closed : Bool) (d : D) : Option (List (Option D)) :=
  match v.inOrder? d with
  | some items =>
    if items.length ≤ names.length then
      some ((List.range names.length).map fun i => items[i]?)
    else none
  | none => do
    let fields ← v.fields? d
    if fields.any fun f => f.1.isNone then none
    if closed && fields.any fun f => !names.any fun n => f.1 = some n then none
    names.mapM (single? fields)

/-- A list of values of one kind. -/
def list? {α : Type} (item : D → Option α) (d : D) : Option (List α) := do
  (← v.items? d).mapM item

/-- A value that may be nothing. -/
def optional? {α : Type} (item : D → Option α) (d : D) : Option (Option α) :=
  (v.nothing? d).bind fun nothing => if nothing then some none else (item d).map some

/-- A value that may be missing. -/
def orElse {α : Type} (default : α) (item : D → Option α) : Option D → Option α
  | some d => item d
  | none => some default

end View

end EndpointStubs
