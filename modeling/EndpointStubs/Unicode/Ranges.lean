/-!
# Sets of characters as ranges

A character property is a list of closed code-point ranges, a case form a list of runs.

    r.contains n = true ↔ some range of `r` holds `n`
-/

namespace EndpointStubs.Unicode

/-- Closed ranges of code points. -/
abbrev Ranges := List (Nat × Nat)

/-- Some range holds the code point. -/
def Ranges.contains (r : Ranges) (n : Nat) : Bool :=
  r.any fun p => p.1 ≤ n && n ≤ p.2

theorem Ranges.contains_iff {r : Ranges} {n : Nat} :
    r.contains n = true ↔ ∃ p ∈ r, p.1 ≤ n ∧ n ≤ p.2 := by
  simp [Ranges.contains]

/-- Every `step`-th code point from `first` to `last` maps to itself plus `shift`. -/
structure CaseRun where
  first : Nat
  last : Nat
  step : Nat
  shift : Int

/-- The code point belongs to the run. -/
def CaseRun.holds (r : CaseRun) (n : Nat) : Bool :=
  r.first ≤ n && n ≤ r.last && (n - r.first) % r.step = 0

/-- The form of a character: its sequence, else its run's shift, else itself. -/
def caseForm (runs : List CaseRun) (sequences : List (Nat × List Nat)) (c : Char) : List Char :=
  match sequences.find? fun s => s.1 = c.toNat with
  | some s => s.2.map Char.ofNat
  | none =>
    match runs.find? fun r => r.holds c.toNat with
    | some r => [Char.ofNat (c.toNat + r.shift).toNat]
    | none => [c]

end EndpointStubs.Unicode
