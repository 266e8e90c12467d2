/-!
# The shortest decimal of a number

The fewest decimal digits that identify a double among all doubles, and among those digits
the ones nearest to it. A double is an exact fraction, so is the interval of numbers that
round to it, and both are compared with decimals in natural numbers.

    shortest x = (d, p)    d · 10^p rounds to x, and no decimal with fewer digits does
-/

namespace EndpointStubs.Decimal

/-- Significand and exponent of a positive finite double: its value is `m · 2^q`. -/
def parts (x : Float) : Nat × Int :=
  let bits : Nat := x.toBits.toNat
  let exponent : Nat := bits / Nat.pow 2 52 % 2048
  let fraction : Nat := bits % Nat.pow 2 52
  if exponent = 0 then (fraction, -1074) else (Nat.pow 2 52 + fraction, (exponent : Int) - 1075)

/-- A fraction of natural numbers. -/
structure Fraction where
  num : Nat
  den : Nat

/-- `n · 2^q`. -/
def Fraction.scaled (n : Nat) (q : Int) : Fraction :=
  if q ≥ 0 then ⟨n * Nat.pow 2 q.toNat, 1⟩ else ⟨n, Nat.pow 2 (-q).toNat⟩

/-- `x · 10^p`. -/
def Fraction.shift (x : Fraction) (p : Int) : Fraction :=
  if p ≥ 0 then ⟨x.num * Nat.pow 10 p.toNat, x.den⟩ else ⟨x.num, x.den * Nat.pow 10 (-p).toNat⟩

def Fraction.lt (x y : Fraction) : Bool := x.num * y.den < y.num * x.den

/-- The numbers that round to `m · 2^q`; the ends belong to it when `m` is even. -/
structure Interval where
  low : Fraction
  high : Fraction
  closed : Bool

/-- The interval of a double. Below a power of two the neighbour is half as far. -/
def interval (m : Nat) (q : Int) : Interval where
  low := if m = Nat.pow 2 52 ∧ q > -1074 then .scaled (4 * m - 1) (q - 2) else .scaled (2 * m - 1) (q - 1)
  high := .scaled (2 * m + 1) (q - 1)
  closed := m % 2 = 0

/-- A decimal `d · 10^p` lies in the interval. -/
def Interval.holds (i : Interval) (d : Nat) (p : Int) : Bool :=
  let x := Fraction.shift ⟨d, 1⟩ p
  if i.closed then !x.lt i.low && !i.high.lt x else i.low.lt x && x.lt i.high

/-- The number of digits before the point; not positive for numbers below a tenth. -/
def magnitude (x : Fraction) : Nat → Int → Int
  | 0, k => k
  | fuel + 1, k =>
    let one : Fraction := ⟨1, 1⟩
    let y := x.shift (-k)
    if !y.lt one then magnitude x fuel (k + 1)
    else if (x.shift (1 - k)).lt one then magnitude x fuel (k - 1)
    else k

/-- The decimal with `n` digits that is nearest and lies in the interval, if one does. -/
def nearest? (x : Fraction) (i : Interval) (k : Int) (n : Nat) : Option (Nat × Int) :=
  let p := k - n
  let y := x.shift (-p)
  let down := y.num / y.den
  let rest := 2 * (y.num % y.den)
  let order :=
    if rest < y.den || (rest = y.den && down % 2 = 0) then [down, down + 1] else [down + 1, down]
  (order.find? fun d => i.holds d p).map fun d => (d, p)

/-- The shortest decimal of a positive finite double, as digits and power of ten. -/
def shortest (x : Float) : Nat × Int :=
  let (m, q) := parts x
  let v := Fraction.scaled m q
  let i := interval m q
  let k := magnitude v 700 0
  (((List.range 17).findSome? fun n => nearest? v i k (n + 1))).getD (m, 0)

/-- Digits and power of ten without exponent. -/
def positional (d : Nat) (p : Int) : List Char :=
  let digits := Nat.toDigits 10 d
  if p ≥ 0 then digits ++ List.replicate p.toNat '0'
  else
    let places := (-p).toNat
    if digits.length > places then
      digits.take (digits.length - places) ++ '.' :: digits.drop (digits.length - places)
    else '0' :: '.' :: (List.replicate (places - digits.length) '0' ++ digits)

/-- A number without superfluous zeros at its end. -/
def normalize : Nat → Nat → Int → Nat × Int
  | 0, d, p => (d, p)
  | fuel + 1, d, p => if d ≠ 0 && d % 10 = 0 then normalize fuel (d / 10) (p + 1) else (d, p)

/-- The digits of a positive finite double without zeros at their end, and their power of ten. -/
def digits (x : Float) : Nat × Int :=
  let (d, p) := shortest x
  normalize 20 d p

/-- A positive finite double in positional digits, with at least one after the point. -/
def plain (x : Float) : List Char :=
  let (d, p) := digits x
  if p ≥ 0 then positional d p ++ ['.', '0'] else positional d p

/-- A positive finite double with one digit before the point, and an exponent. -/
def scientific (x : Float) : List Char :=
  let (d, p) := digits x
  let ds := Nat.toDigits 10 d
  let exponent : Int := p + ds.length - 1
  ds.take 1 ++ (if ds.length > 1 then '.' :: ds.drop 1 else []) ++ 'e' :: (toString exponent).toList

/-- A double with its sign, given how positive finite ones are written. -/
def signed (write : Float → List Char) (x : Float) : List Char :=
  if x.isNaN then "NaN".toList
  else
    let sign := if x.toBits.toNat ≥ Nat.pow 2 63 then ['-'] else []
    let a := x.abs
    sign ++ (if a.isInf then "inf".toList else if a == 0 then "0.0".toList else write a)

/-- A double in positional digits. -/
def text (x : Float) : List Char := signed plain x

/-- A double in positional digits, or with an exponent from 10^16 on and below 10^-4. -/
def inner (x : Float) : List Char :=
  signed (fun a => if a < 0.0001 || a ≥ 10000000000000000 then scientific a else plain a) x

end EndpointStubs.Decimal
