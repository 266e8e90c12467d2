import EndpointStubs.Template.Filter.Arguments
import EndpointStubs.Template.Filter.Names
import EndpointStubs.Unicode.Casing

/-!
# Tests

A test answers a question about a value, some with one argument. An unknown name, or arguments
that do not fit, make rendering fail.

    run? name v a = some b → name ∈ testNames
-/

namespace EndpointStubs.Template.Test

/-- Divisible without a remainder. -/
def divides (v w : Value) : Bool :=
  match Value.pair? v w with
  | some (.ints a b) => b ≠ 0 && a % b = 0
  | some (.floats a b) => Double.remainder a b == 0
  | none => false

/-- Tests without arguments. -/
def simple? (name : String) (v : Value) : Option Bool :=
  match name with
  | "undefined" => some v.isUndefined
  | "defined" => some !v.isUndefined
  | "none" => some (match v with | .none => true | _ => false)
  | "safe" | "escaped" => some v.isSafe
  | "boolean" => some (v.kind = 2)
  | "odd" => some (v.int?.any fun n => n % 2 ≠ 0)
  | "even" => some (v.int?.any fun n => n % 2 = 0)
  | "number" => some v.isNumber
  | "integer" | "int" => some v.isInteger
  | "float" => some (v.isNumber && !v.isInteger)
  | "string" => some (v.kind = 4)
  | "sequence" => some (v.kind = 6)
  | "iterable" => some v.items?.isSome
  | "mapping" => some (v.kind = 7)
  | "lower" => v.string?.map fun s => s.toList.all Unicode.isLowerCase
  | "upper" => v.string?.map fun s => s.toList.all Unicode.isUpperCase
  | "true" => some (match v with | .bool b => b | _ => false)
  | "false" => some (match v with | .bool b => !b | _ => false)
  | "filter" => v.string?.map filterNames.contains
  | "test" => v.string?.map testNames.contains
  | _ => none

/-- Tests of texts with one argument. -/
def ofTexts? (name : String) (s t : List Char) : Option Bool :=
  match name with
  | "startingwith" => some (t.isPrefixOf s)
  | "endingwith" => some (t.isSuffixOf s)
  | _ => none

/-- Tests of values with one argument. -/
def binary? (name : String) (v w : Value) : Option Bool :=
  match name with
  | "divisibleby" => some (divides v w)
  | "eq" | "equalto" | "==" => some (Value.same v w)
  | "sameas" => some (Value.isSame v w)
  | "ne" | "!=" => some !(Value.same v w)
  | "lt" | "lessthan" | "<" => some (Value.order v w = .lt)
  | "le" | "<=" => some (Value.order v w ≠ .gt)
  | "gt" | "greaterthan" | ">" => some (Value.order v w = .gt)
  | "ge" | ">=" => some (Value.order v w ≠ .lt)
  | "in" => some ((Value.contains? w v).getD false)
  | _ => none

def run? (name : String) (v : Value) (a : Args) : Option Bool :=
  match a.all with
  | [] => simple? name v
  | [w] =>
    match binary? name v w with
    | some b => some b
    | none => (a.text 0).bind fun t => ofTexts? name v.chars t.toList
  | _ => none

end EndpointStubs.Template.Test
