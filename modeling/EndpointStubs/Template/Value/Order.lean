import EndpointStubs.Template.Value.Number

/-!
# Order and equality of values

Numbers are compared as numbers whatever their kind, texts by their characters, lists item by
item, and values of other kinds by kind. What is equal in this order but of different kinds is
ordered by kind, so that it makes two keys of a map; equality does not see that difference.
-/

namespace EndpointStubs.Template

namespace Value

/-- How deep values are compared. -/
def maxDepth : Nat := 200

/-! ## Numbers -/

/-- The order of two numbers; truth values are numbers here. -/
def compareNumbers? : Value → Value → Option Ordering
  | float a, float b => some (compare (Double.rank a) (Double.rank b))
  | float a, b =>
    b.int?.map fun n =>
      if a.isFinite && !(a == 0) then (Double.compareWhole n a).swap
      else compare (Double.rank a) (Double.rank (Float.ofInt n))
  | a, float b =>
    a.int?.map fun n =>
      if b.isFinite && !(b == 0) then Double.compareWhole n b
      else compare (Double.rank (Float.ofInt n)) (Double.rank b)
  | a, b => do return compare (← a.int?) (← b.int?)

/-- Whether two numbers are equal. -/
def sameNumber? : Value → Value → Option Bool
  | float a, float b => some (a == b)
  | float a, b | b, float a =>
    b.int?.map fun n => a.isFinite && Double.compareWhole n a = .eq
  | a, b => do return (← a.int?) = (← b.int?)

/-! ## Order -/

/-- Lists in order, given the order of items. -/
def compareLists (order : Value → Value → Ordering) : List Value → List Value → Ordering
  | [], [] => .eq
  | [], _ => .lt
  | _, [] => .gt
  | a :: as, b :: bs =>
    match order a b with
    | .eq => compareLists order as bs
    | o => o

/-- Keys and values one after the other. -/
def inSequence : List (Value × Value) → List Value
  | [] => []
  | (k, v) :: es => k :: v :: inSequence es

/-- The order of values that nest at most `depth` deep. -/
def compareTo : Nat → Value → Value → Ordering
  | 0, _, _ => .eq
  | depth + 1, a, b =>
    let byValue :=
      match a, b with
      | string a _, string b _ => compare a b
      | a, b =>
        match compareNumbers? a b with
        | some o => o
        | Option.none =>
          match compare a.kind b.kind with
          | .eq =>
            match a, b with
            | list _ a, list _ b => compareLists (compareTo depth) a b
            | function f, function g => compare f.path g.path
            | a, b =>
              match a.entries?, b.entries? with
              | some a, some b =>
                compareLists (compareTo depth) (inSequence a) (inSequence b)
              | _, _ => .eq
          | o => o
    byValue.then (compare a.kind b.kind)

def order (a b : Value) : Ordering := compareTo maxDepth a b

/-! ## Maps -/

def lookup? (key : Value) (es : List (Value × Value)) : Option Value :=
  (es.find? fun e => order e.1 key = .eq).map Prod.snd

/-- Puts an entry at its place; a key that is there stays as it is. -/
def insertEntry (key value : Value) : List (Value × Value) → List (Value × Value)
  | [] => [(key, value)]
  | e :: es =>
    match order key e.1 with
    | .lt => (key, value) :: e :: es
    | .eq => (e.1, value) :: es
    | .gt => e :: insertEntry key value es

/-- Entries in the order of their keys; of equal keys the last value counts. -/
def sorted (es : List (Value × Value)) : List (Value × Value) :=
  es.foldl (fun acc e => insertEntry e.1 e.2 acc) []

def ofEntries (es : List (Value × Value)) : Value := map 0 (sorted es)

/-! ## Equality -/

/-- All items are equal, in order. -/
def sameLists (same : Value → Value → Bool) : List Value → List Value → Bool
  | [], [] => true
  | a :: as, b :: bs => same a b && sameLists same as bs
  | _, _ => false

/-- Equality of values that nest at most `depth` deep. -/
def sameTo : Nat → Value → Value → Bool
  | 0, _, _ => true
  | depth + 1, a, b =>
    match a, b with
    | undefined, undefined | none, none => true
    | string a _, string b _ => a = b
    | list _ a, list _ b => sameLists (sameTo depth) a b
    | function f, function g => f = g
    | a, b =>
      match sameNumber? a b with
      | some same => same
      | Option.none =>
        match a.entries?, b.entries? with
        | some as, some bs =>
          as.length = bs.length && as.all fun e =>
            (lookup? e.1 bs).any fun w => sameTo depth e.2 w
        | _, _ => false

def same (a b : Value) : Bool := sameTo maxDepth a b

/-- Two values are one: the same object, or equal plain values of one kind. -/
def isSame (a b : Value) : Bool :=
  match a, b with
  | list f _, list g _ => f.identity = g.identity && f.identity ≠ 0
  | map i _, map j _ => i = j && i ≠ 0
  | space i _, space j _ => i = j
  | callable i .., callable j .. => i = j
  | loop i .., loop j .. => i = j
  | function f, function g => f = g
  | a, b => a.kind ≤ 4 && a.kind = b.kind && a.isInteger = b.isInteger && same a b

end Value

end EndpointStubs.Template
