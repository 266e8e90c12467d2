import EndpointStubs.Template.Value.Order
import EndpointStubs.Template.Value.Text

/-!
# Items of values

Positions are counted from 0, negative ones from the end. A slice goes from its start up to its
stop, or backwards when its step is negative; what lies outside is left out.
-/

namespace EndpointStubs.Template.Value

/-! ## One item -/

def nth? {α : Type} (xs : List α) (i : Int) : Option α :=
  if i < 0 then
    if i.natAbs ≤ xs.length then xs[xs.length - i.natAbs]? else Option.none
  else xs[i.toNat]?

def listItem? (form : ListForm) (items : List Value) (key : Value) : Option Value :=
  match key.place? with
  | some i => if i < 0 && !form.isSized then Option.none else nth? items i
  | Option.none =>
    if form.isGroup then
      match key.string? with
      | some "grouper" => items[0]?
      | some "list" => items[1]?
      | _ => Option.none
    else Option.none

/-- What is under a key, if something is. -/
def get? (v key : Value) : Option Value :=
  match v with
  | list form items => listItem? form items key
  | string s _ => do
    let c ← nth? s.toList (← key.place?)
    return ofChars [c]
  | v => v.entries?.bind (lookup? key)

/-- What is under a key or position, or the undefined; the undefined has nothing to look for. -/
def item? (v key : Value) : Option Value :=
  match v with
  | undefined => Option.none
  | v => some ((v.get? key).getD undefined)

/-- What is under a name; texts have no names. -/
def attribute? (v : Value) (name : String) : Option Value :=
  match v with
  | undefined => Option.none
  | string .. => some undefined
  | v => some ((v.get? (ofString name)).getD undefined)

/-! ## Slices -/

/-- First position and number of positions of a slice of `n` items. -/
def sliceRange (n : Nat) (start : Int) (stop? : Option Int) : Nat × Nat :=
  let place (i : Int) : Nat := if i < 0 then ((n : Int) + i).toNat else i.toNat
  let first := place start
  let last := min (stop?.elim n place) n
  (first, last - first)

def everyNth {α : Type} (step : Nat) (xs : List α) : List α :=
  (xs.zipIdx.filter fun x => x.2 % step = 0).map Prod.fst

def sliceItems {α : Type} (xs : List α) (start? stop? : Option Int) (step : Int) : List α :=
  if step > 0 then
    let (first, count) := sliceRange xs.length (start?.getD 0) stop?
    everyNth step.toNat ((xs.drop first).take count)
  else
    let n := xs.length
    let place (i : Int) : Int := if i < 0 then (n : Int) + i else i
    let first := min ((start?.map place).getD ((n : Int) - 1)) ((n : Int) - 1)
    let stop := (stop?.map place).getD (-1)
    let count := (first - max stop (-1)).toNat
    everyNth step.natAbs (((xs.take (first + 1).toNat).reverse).take count)

def slice? (v : Value) (start? stop? : Option Int) (step : Int) : Option Value :=
  if step = 0 then Option.none
  else
    match v with
    | undefined | none => some (ofList [])
    | list _ items => some (stream (sliceItems items start? stop? step))
    | string s _ => some (ofChars (sliceItems s.toList start? stop? step))
    | _ => Option.none

/-! ## Containment -/

/-- Occurs somewhere in a text. -/
def isInfix (needle : List Char) : List Char → Bool
  | [] => needle = []
  | c :: cs => needle.isPrefixOf (c :: cs) || isInfix needle cs

/-- Whether a container holds a value; other values hold nothing and are no containers. -/
def contains? (container v : Value) : Option Bool :=
  match container with
  | undefined => some false
  | string s _ => some (isInfix v.chars s.toList)
  | list _ items => some (items.any (same v))
  | function _ => some false
  | c => c.entries?.map fun es => (lookup? v es).isSome

end EndpointStubs.Template.Value
