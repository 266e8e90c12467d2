import EndpointStubs.Decimal.Shortest
import EndpointStubs.Template.Value.Basic

/-!
# Numbers of templates

Whole numbers are within 128 bits, and truth values count as 0 and 1. An operator on a double
and a whole number works on doubles. Whole numbers are divided so that the remainder is never
negative; doubles keep the remainder's sign.
-/

namespace EndpointStubs.Template

/-! ## Doubles as fractions -/

namespace Double

/-- Below zero, counting the negative zero. -/
def isNegative (x : Float) : Bool := x.toBits.toNat ≥ Nat.pow 2 63

/-- A finite double as `n · 2^q`. -/
def parts (x : Float) : Int × Int :=
  let (m, q) := Decimal.parts x.abs
  (if isNegative x then -(m : Int) else m, q)

/-- A finite double without its fraction. -/
def truncate (x : Float) : Int :=
  let (m, q) := parts x
  if q ≥ 0 then m * Int.pow 2 q.toNat else m.tdiv (Int.pow 2 (-q).toNat)

/-- The whole number that a double is. -/
def whole? (x : Float) : Option Int :=
  if x.isFinite && x.floor == x then some (truncate x) else none

/-- The order of a whole number and a finite double. -/
def compareWhole (n : Int) (x : Float) : Ordering :=
  let (m, q) := parts x
  if q ≥ 0 then compare n (m * Int.pow 2 q.toNat) else compare (n * Int.pow 2 (-q).toNat) m

/-- The place of a double in the order of all doubles, which tells zeros apart and puts what is
no number at the ends. -/
def rank (x : Float) : Int :=
  let bits := x.toBits.toNat
  if bits ≥ Nat.pow 2 63 then Nat.pow 2 63 - 1 - (bits : Int) else bits

/-- The remainder of a division whose quotient is cut off; it has the sign of the dividend. -/
def remainder (x y : Float) : Float :=
  if x.isNaN || y.isNaN || x.isInf || y == 0 then 0 / 0
  else if y.isInf || x == 0 then x
  else
    let (m, p) := Decimal.parts x.abs
    let (n, q) := Decimal.parts y.abs
    let low := min p q
    let r := (m * Nat.pow 2 (p - low).toNat) % (n * Nat.pow 2 (q - low).toNat)
    let r := (Float.ofNat r).scaleB low
    if isNegative x then -r else r

/-- The quotient that leaves a remainder which is not negative. -/
def quotient (x y : Float) : Float :=
  let q := x / y
  let q := if q < 0 then q.ceil else q.floor
  if remainder x y < 0 then (if y > 0 then q - 1 else q + 1) else q

/-- A power with a whole exponent, by squaring. -/
def power (x : Float) (n : Int) : Float :=
  let rec go : Nat → Float → Nat → Float → Float
    | 0, _, _, r => r
    | fuel + 1, a, n, r =>
      let r := if n % 2 = 1 then r * a else r
      if n / 2 = 0 then r else go fuel (a * a) (n / 2) r
  let r := go 64 x n.natAbs 1
  if n < 0 then 1 / r else r

end Double

namespace Value

/-! ## Reading numbers -/

/-- The least whole number, without its sign. -/
def bound : Nat := Nat.pow 2 127

/-- A whole number that an operator gives. -/
def within? (n : Int) : Option Value :=
  if -(bound : Int) ≤ n && n < bound then some (int n) else Option.none

/-- A value that is a whole number, of any kind. -/
def int? : Value → Option Int
  | int n => some n
  | bool b => some (if b then 1 else 0)
  | float x => Double.whole? x
  | _ => Option.none

/-- A whole number that is a place in a list. -/
def place? (v : Value) : Option Int :=
  v.int?.bind fun n => if -(Nat.pow 2 63 : Int) ≤ n && n < Nat.pow 2 63 then some n else Option.none

def count? (v : Value) : Option Nat :=
  v.int?.bind fun n => if 0 ≤ n && n < Nat.pow 2 64 then some n.toNat else Option.none

def float? : Value → Option Float
  | float x => some x
  | int n => some (Float.ofInt n)
  | bool b => some (if b then 1 else 0)
  | _ => Option.none

/-- Two numbers of one kind. -/
inductive Pair where
  | ints (a b : Int)
  | floats (a b : Float)

/-- Two whole numbers as operands. Beyond the signed 128 bits a number wraps around if the
other one is large too, and is no operand otherwise. -/
def intPair? (a b : Int) : Option Pair :=
  let large (n : Int) : Bool := n ≥ Nat.pow 2 64
  let wrap (n : Int) : Int := if n < bound then n else n - Nat.pow 2 128
  if large a && large b then some (.ints (wrap a) (wrap b))
  else if a < bound && b < bound then some (.ints a b)
  else Option.none

/-- Two values as operands; one double makes both doubles. -/
def pair? : Value → Value → Option Pair
  | float a, b => b.float?.map (Pair.floats a)
  | a, float b => a.float?.map (Pair.floats · b)
  | a, b => do intPair? (← a.int?) (← b.int?)

/-! ## Operators -/

/-- The sum; of texts and lists, one after the other. -/
def add? (a b : Value) : Option Value :=
  match a, b with
  | string a _, string b _ => some (ofString (a ++ b))
  | list f a, list g b =>
    some (if f.isSized && g.isSized then stream (a ++ b) else unsized (a ++ b))
  | a, b =>
    match pair? a b with
    | some (.ints a b) => within? (a + b)
    | some (.floats a b) => some (float (a + b))
    | Option.none => Option.none

def sub? (a b : Value) : Option Value :=
  match pair? a b with
  | some (.ints a b) => within? (a - b)
  | some (.floats a b) => some (float (a - b))
  | Option.none => Option.none

/-- The product; a text or a list times a number is repeated. -/
def mul? (a b : Value) : Option Value :=
  let times {α : Type} (n : Nat) (xs : List α) : List α := (List.replicate n xs).flatten
  match a, b with
  | string s _, n | n, string s _ => n.count?.map fun n => ofChars (times n s.toList)
  | list f xs, n | n, list f xs =>
    if f.isSized then n.count?.map fun n => stream (times n xs) else Option.none
  | a, b =>
    match pair? a b with
    | some (.ints a b) => within? (a * b)
    | some (.floats a b) => some (float (a * b))
    | Option.none => Option.none

/-- Quotients are doubles. -/
def div? (a b : Value) : Option Value := do
  return float ((← a.float?) / (← b.float?))

def floorDiv? (a b : Value) : Option Value :=
  match pair? a b with
  | some (.ints a b) => if b = 0 then Option.none else within? (a / b)
  | some (.floats a b) => some (float (Double.quotient a b))
  | Option.none => Option.none

def rem? (a b : Value) : Option Value :=
  match pair? a b with
  | some (.ints a b) => if b = 0 then Option.none else some (int (a % b))
  | some (.floats a b) => some (float (Double.remainder a b))
  | Option.none => Option.none

/-- A power of whole numbers, if it is within 128 bits. The exponent is below `2^32`. -/
def intPower? (a : Int) (n : Int) : Option Value :=
  if n < 0 || n ≥ Nat.pow 2 32 then Option.none
  else if a.natAbs ≤ 1 then some (int (a.pow (if n > 2 then 2 + n.toNat % 2 else n.toNat)))
  else if n > 128 then Option.none
  else within? (a.pow n.toNat)

def pow? (a b : Value) : Option Value :=
  match pair? a b with
  | some (.ints a b) => intPower? a b
  | some (.floats a b) => some (float (Float.pow a b))
  | Option.none => Option.none

/-- The negative of a number. The least whole number is written with a minus sign before a
number that has no negative, and stays that number. -/
def negate? : Value → Option Value
  | int n =>
    if n = bound then some (int n) else if n < bound then within? (-n) else Option.none
  | float x => some (float (-x))
  | _ => Option.none

end Value

end EndpointStubs.Template
