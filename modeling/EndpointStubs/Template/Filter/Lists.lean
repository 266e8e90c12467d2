import EndpointStubs.Template.Filter.Arguments
import EndpointStubs.Template.Filter.Numbers
import EndpointStubs.Text.Case

/-!
# Filters of lists

Sorting, grouping and cutting up lists. What is compared may be an attribute of the items, which
is named by a path: names and positions with points between them.

    columns n none items     n lists that are `items` when put together
-/

namespace EndpointStubs.Template.Lists

/-! ## Paths -/

/-- What is behind a path of attributes and positions. -/
def path? (v : Value) (path : String) : Option Value :=
  (Text.pieces '.' path.toList).foldlM (fun v step =>
    match (Literal.unsigned? 10 step).filter (· < Nat.pow 2 64) with
    | some n => v.item? (.ofNat n)
    | none => v.item? (.ofChars step)) v

/-- What is behind a path, or something else if nothing is. -/
def pathOr (other : Value) (v : Value) (path : String) : Value :=
  match path? v path with
  | some w => if w.isUndefined then other else w
  | none => other

/-! ## Order -/

/-- The order of two values; unless case counts, ASCII letters of texts are folded. -/
def compareFolded (caseSensitive : Bool) (a b : Value) : Ordering :=
  match a, b with
  | .string s _, .string t _ =>
    if caseSensitive then compare s t
    else compare (String.ofList (Text.foldAscii s.toList)) (String.ofList (Text.foldAscii t.toList))
  | a, b => Value.order a b

/-- Items in the order of their keys; what has no key stays where it is. -/
def sortBy (caseSensitive : Bool) (key? : Value → Option Value) (items : List Value) : List Value :=
  let keyed := items.map fun v => (key? v, v)
  let sorted := keyed.mergeSort fun x y =>
    match x.1, y.1 with
    | some a, some b => (compareFolded caseSensitive a b).isLE
    | _, _ => true
  sorted.map Prod.snd

/-- Sorted items, by an attribute if one is named. -/
def sort? (a : Args) (items : List Value) : Option (List Value) := do
  let caseSensitive ← a.namedFlag "case_sensitive"
  let reverse ← a.namedFlag "reverse"
  let key? : Value → Option Value ← match ← a.namedText? "attribute" with
    | some path => pure fun v => path? v path
    | none => pure some
  let sorted := sortBy caseSensitive key? items
  return if reverse then sorted.reverse else sorted

/-- The entries of a map as pairs, sorted by key or by value. -/
def sortPairs? (a : Args) (entries : List (Value × Value)) : Option (List Value) := do
  let caseSensitive ← a.namedFlag "case_sensitive"
  let reverse ← a.namedFlag "reverse"
  let byValue ← match ← a.namedText? "by" with
    | none | some "key" => pure false
    | some "value" => pure true
    | some _ => none
  let pairs := entries.map fun e => Value.ofList [e.1, e.2]
  let sorted := sortBy caseSensitive (fun v => v.get? (.int (if byValue then 1 else 0))) pairs
  return if reverse then sorted.reverse else sorted

/-- Items whose keys have not occurred before. -/
def unique? (a : Args) (items : List Value) : Option (List Value) := do
  let caseSensitive ← a.namedFlag "case_sensitive"
  let path? ← a.namedText? "attribute"
  let key (v : Value) : Value :=
    match path?.elim v (pathOr .undefined v) with
    | .string s _ => if caseSensitive then .ofString s else .ofChars (Text.lower s.toList)
    | v => v
  let kept := items.foldl (fun (acc : List Value × List Value) v =>
    let k := key v
    if acc.1.any fun l => Value.order l k = .eq then acc else (acc.1 ++ [k], acc.2 ++ [v])) ([], [])
  return kept.2

/-- The first of the least items. -/
def least (items : List Value) : Value :=
  match items with
  | [] => .undefined
  | v :: vs => vs.foldl (fun best x => if Value.order x best = .lt then x else best) v

/-- The last of the greatest items. -/
def greatest (items : List Value) : Value :=
  match items with
  | [] => .undefined
  | v :: vs => vs.foldl (fun best x => if Value.order x best = .lt then best else x) v

/-! ## Groups -/

/-- A key with what has it. -/
def group (key : Value) (items : List Value) : Value :=
  .list { isGroup := true } [key, .stream items]

/-- Neighbours with equal keys together, each group under the key of its last item. -/
def groupRuns (equal : Value → Value → Bool) : List (Value × Value) → List Value
  | [] => []
  | (k, v) :: rest => go k [v] rest
where
  /-- The groups from the one that is collected. -/
  go (key : Value) (items : List Value) : List (Value × Value) → List Value
    | [] => [group key items]
    | (k, v) :: rest =>
      if equal key k then go k (items ++ [v]) rest else group key items :: go k [v] rest

def groupBy? (a : Args) (items : List Value) : Option (List Value) := do
  let path ← match a.positional with
    | [path] => path.string?
    | _ => (a.get? "attribute").bind Value.string?
  let other := (a.present? "default").getD .undefined
  let caseSensitive ← a.namedFlag "case_sensitive"
  let key (v : Value) : Value := pathOr other v path
  let sorted := sortBy caseSensitive (fun v => some (key v)) items
  let equal (x y : Value) : Bool := compareFolded caseSensitive x y = .eq
  return groupRuns equal (sorted.map fun v => (key v, v))

/-! ## Pieces -/

/-- Rows of at most `n` items, the last one filled up. -/
def batches (n : Nat) (fill? : Option Value) : Nat → List Value → List Value
  | 0, _ | _, [] => []
  | fuel + 1, items =>
    let row := items.take n
    let row := row ++ (fill?.elim [] fun v => List.replicate (n - row.length) v)
    .ofList row :: batches n fill? fuel (items.drop n)

/-- `n` columns of nearly equal length; those without an item more are filled by one. -/
def columns (n : Nat) (fill? : Option Value) (items : List Value) : List Value :=
  let size := items.length / n
  let more := items.length % n
  (List.range n).map fun i =>
    let start := i * size + min i more
    let column := (items.drop start).take (size + if i < more then 1 else 0)
    .ofList (column ++ if i ≥ more then fill?.elim [] ([·]) else [])

/-- Lists side by side, as long as all have items. -/
def zip (fuel : Nat) (lists : List (List Value)) : List Value :=
  match fuel with
  | 0 => []
  | fuel + 1 =>
    if lists.any List.isEmpty || lists.isEmpty then []
    else .ofList (lists.map fun l => l.headD .undefined) :: zip fuel (lists.map List.tail)

/-- Values one after the other: maps as a map, in which later entries count, lists as a list,
others as something to go through. -/
def chain? (vs : List Value) : Option Value := do
  match vs.mapM Value.entries? with
  | some entries => return .ofEntries entries.flatten
  | none =>
    let items := (← vs.mapM Value.items?).flatten
    return if vs.all fun v => v.kind = 6 then .ofList items else .unsized items

/-! ## Whole lists -/

/-- The sum of numbers; what is undefined does not count. -/
def sum? (items : List Value) : Option Value :=
  items.foldlM (fun total v =>
    if v.isUndefined then some total
    else if v.isNumber then Value.add? total v
    else none) (.int 0)

/-- The first of the characters or items. -/
def first? : Value → Option Value
  | .string s _ => some ((s.toList.head?.map fun c => .ofChars [c]).getD .undefined)
  | v => v.objectItems?.map fun items => items.headD .undefined

/-- The last of the characters or items; maps have none. -/
def last? : Value → Option Value
  | .string s _ => some ((s.toList.getLast?.map fun c => .ofChars [c]).getD .undefined)
  | .list _ items => some (items.getLast?.getD .undefined)
  | _ => none

def reverse? : Value → Option Value
  | .undefined => some .undefined
  | .none => some .none
  | .string s _ => some (.ofChars s.toList.reverse)
  | v => v.objectItems?.map fun items => .stream items.reverse

/-- Texts with a joiner between them. Where printed values are escaped, one safe text among them
makes the others and the joiner escaped, and the whole safe. -/
def join? (escaping : Bool) (escape : List Char → List Char) (v : Value) (joiner : Value) :
    Option Value := do
  let items ← v.items?
  if escaping && (joiner :: items).any Value.isSafe then
    let shown (v : Value) : List Char := if v.isSafe then v.chars else escape v.chars
    return .string (String.ofList (Text.join (shown joiner) (items.map shown))) true
  return .ofChars (Text.join joiner.chars (items.map Value.chars))

end EndpointStubs.Template.Lists
