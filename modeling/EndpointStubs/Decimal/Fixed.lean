import EndpointStubs.Decimal.Shortest

/-!
# Decimals with a fixed number of digits

A double is an exact fraction; written with a given number of digits it is rounded to the
nearest decimal, a tie to the even digit.

    fixed 2 0.125 = 0.12
    exponential 2 0.125 = (125, -1)
-/

namespace EndpointStubs.Decimal

/-- The whole number nearest to `n / d`; a tie goes to the even one. -/
def roundedQuotient (n d : Nat) : Nat :=
  let q := n / d
  let r := 2 * (n % d)
  if d < r ∨ (r = d ∧ q % 2 = 1) then q + 1 else q

/-- The fraction that a positive finite double is. -/
def fraction (x : Float) : Fraction :=
  let (m, q) := parts x
  .scaled m q

/-- A positive finite double with `places` digits after the point. -/
def fixed (places : Nat) (x : Float) : List Char :=
  let v := fraction x
  let n := roundedQuotient (v.num * Nat.pow 10 places) v.den
  positional n (-(places : Int))

/-- The digits and the exponent of a double that is not negative, one digit before the point
and `places` after it. -/
def exponential (places : Nat) (x : Float) : Nat × Int :=
  if x == 0 then (0, 0)
  else
    let v := fraction x
    let k := magnitude v 700 0 - 1
    let y := v.shift ((places : Int) - k)
    let n := roundedQuotient y.num y.den
    if n ≥ Nat.pow 10 (places + 1) then (n / 10, k + 1) else (n, k)

end EndpointStubs.Decimal
