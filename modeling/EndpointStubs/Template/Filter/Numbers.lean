import EndpointStubs.Template.Literal
import EndpointStubs.Template.Value.Number

/-!
# Filters of numbers

Texts read as numbers, doubles cut off or rounded to whole numbers, within 128 bits.
-/

namespace EndpointStubs.Template.Numbers

/-- The whole number that a text writes, within 128 bits. -/
def parseInt? (cs : List Char) : Option Int := do
  let digits (ds : List Char) : Option Nat :=
    if ds ≠ [] && ds.all Char.isDigit then some (Literal.decimal ds) else none
  let n : Int ← match cs with
    | '-' :: ds => (digits ds).map fun n => -(n : Int)
    | '+' :: ds => (digits ds).map Int.ofNat
    | ds => (digits ds).map Int.ofNat
  if -(Value.bound : Int) ≤ n ∧ n < Value.bound then return n else none

/-- The double that a text writes, in digits or as a word. -/
def parseFloat? (cs : List Char) : Option Float :=
  let unsigned (ds : List Char) : Option Float :=
    let word := String.ofList (ds.map Char.toLower)
    if word = "inf" || word = "infinity" then some (1 / 0)
    else if word = "nan" then some (0 / 0)
    else Literal.double? ds
  match cs with
  | '-' :: ds => (unsigned ds).map fun x => -x
  | '+' :: ds => unsigned ds
  | ds => unsigned ds

/-- A double without its fraction, and the nearest bound if it is out of range. -/
def truncate (x : Float) : Int :=
  if x.isNaN then 0
  else if x.isInf then (if x > 0 then Value.bound - 1 else -Value.bound)
  else max (-Value.bound) (min (Value.bound - 1) (Double.truncate x))

def int? : Value → Option Value
  | .undefined | .none => some (.int 0)
  | .bool b => some (.int (if b then 1 else 0))
  | .int n => some (.int n)
  | .float x => some (.int (truncate x))
  | .string s _ =>
    match parseInt? s.toList with
    | some n => some (.int n)
    | none => (parseFloat? s.toList).map fun x => .int (truncate x)
  | _ => none

def float? : Value → Option Value
  | .undefined | .none => some (.float 0)
  | .string s _ => (parseFloat? s.toList).map .float
  | v => v.float?.map .float

def abs? : Value → Option Value
  | .int n => if n = -Value.bound then none else some (.int n.natAbs)
  | .float x => some (.float x.abs)
  | _ => none

/-- A number rounded to decimal places, a half away from zero. -/
def round? (v : Value) (places : Int) : Option Value :=
  match v with
  | .int n => some (.int n)
  | .float x =>
    let scale := Double.power 10 places
    some (.float ((scale * x).round / scale))
  | _ => none

end EndpointStubs.Template.Numbers
