import EndpointStubs.Template.Filter.Format
import EndpointStubs.Template.Filter.Lists
import EndpointStubs.Template.Filter.Test
import EndpointStubs.Template.Filter.Words

/-!
# Filters by name

A filter makes a value of a value and arguments. An unknown name, or arguments that do not fit,
make rendering fail.
-/

namespace EndpointStubs.Template.Filter

/-! ## Texts -/

/-- A changed text stays safe. -/
def changed (v : Value) (cs : List Char) : Value := .string (String.ofList cs) v.isSafe

/-- The number of cuts: all if it is negative. -/
def maxCuts (n? : Option Int) : Option Nat := n?.bind fun n => if n < 0 then none else some n.toNat

/-- The arguments of an indentation, by position or by name. -/
def indentation (a : Args) : Option (Nat × Bool × Bool) := do
  if a.positional.length > 3 then none
  a.onlyNames ["width", "first", "blank"]
  let p : Args := ⟨a.positional, none⟩
  let width ← match p.given? 0, a.present? "width" with
    | some _, some _ => none
    | some w, none | none, some w => w.count?
    | none, none => some 4
  let first ← if (p.given? 1).isSome then p.flag 1 else a.namedFlag "first"
  let blank ← if (p.given? 2).isSome then p.flag 2 else a.namedFlag "blank"
  if width > 100000 then none else return (width, first, blank)

def words? (name : String) (v : Value) (a : Args) : Option Value := do
  match name with
  | "safe" =>
    a.atMost 0
    return .string v.text true
  | "escape" | "e" =>
    a.atMost 0
    return if v.isSafe then v else .string (String.ofList (Words.escape v.chars)) true
  | "lower" =>
    a.atMost 0
    return changed v (Text.lower v.chars)
  | "upper" =>
    a.atMost 0
    return changed v (Text.upper v.chars)
  | "title" =>
    a.atMost 0
    return changed v (Words.title true v.chars)
  | "capitalize" =>
    a.atMost 0
    return changed v (Words.capitalize v.chars)
  | "trim" =>
    a.atMost 1
    match ← a.text? 0 with
    | none => return changed v (Text.trim v.chars)
    | some set => return changed v (Words.trimSet set.toList v.chars)
  | "replace" =>
    a.atMost 2
    return .ofChars (Words.replace (← a.text 0).toList (← a.text 1).toList v.chars)
  | "split" =>
    a.atMost 2
    let sep? ← a.text? 0
    let cuts? ← a.whole? 1
    let pieces := Words.split (← v.string?).toList (sep?.map String.toList) (maxCuts cuts?)
    return .ofList (pieces.map Value.ofChars)
  | "lines" =>
    a.atMost 0
    return .ofList ((Words.lines (← v.string?).toList).map Value.ofChars)
  | "indent" =>
    let (width, first, blank) ← indentation a
    return changed v (Words.indent width first blank v.chars)
  | "format" => return .ofChars (← Format.format? a v.chars)
  | "string" =>
    a.atMost 0
    return if v.string?.isSome then v else .ofString v.text
  | "pprint" =>
    a.atMost 0
    return .ofString v.laidOut
  | _ => none

/-! ## Single values -/

def values? (name : String) (v : Value) (a : Args) : Option Value := do
  match name with
  | "default" | "d" =>
    a.atMost 2
    let lax ← a.flag 1
    return if v.isUndefined || (lax && !v.truthy) then (a.given? 0).getD (.ofString "") else v
  | "round" =>
    a.atMost 1
    Numbers.round? v ((← a.whole? 0).getD 0)
  | "abs" =>
    a.atMost 0
    Numbers.abs? v
  | "int" =>
    a.atMost 0
    Numbers.int? v
  | "float" =>
    a.atMost 0
    Numbers.float? v
  | "bool" =>
    a.atMost 0
    return .bool v.truthy
  | "attr" =>
    a.atMost 1
    v.item? (← a.all[0]?)
  | "length" | "count" =>
    a.atMost 0
    return .ofNat (← v.length?)
  | _ => none

/-! ## Lists -/

def lists? (escaping : Bool) (name : String) (v : Value) (a : Args) : Option Value := do
  match name with
  | "list" =>
    a.atMost 0
    return .ofList (← v.items?)
  | "first" =>
    a.atMost 0
    Lists.first? v
  | "last" =>
    a.atMost 0
    Lists.last? v
  | "reverse" =>
    a.atMost 0
    Lists.reverse? v
  | "join" =>
    a.atMost 1
    if (← a.text? 0).isSome then Lists.join? escaping Words.escape v ((a.given? 0).getD .undefined)
    else Lists.join? escaping Words.escape v .undefined
  | "min" =>
    a.atMost 0
    return Lists.least (← v.items?)
  | "max" =>
    a.atMost 0
    return Lists.greatest (← v.items?)
  | "sum" =>
    a.atMost 0
    Lists.sum? (← v.items?)
  | "batch" =>
    a.atMost 2
    let n ← a.count 0
    if n = 0 then none
    let items ← v.items?
    return .ofList (Lists.batches n (a.given? 1) (items.length + 1) items)
  | "slice" =>
    a.atMost 2
    let n ← a.count 0
    if n = 0 || n > 100000 then none
    return .ofList (Lists.columns n (a.given? 1) (← v.items?))
  | "sort" =>
    if !a.positional.isEmpty then none
    a.onlyNames ["attribute", "case_sensitive", "reverse"]
    return .ofList (← Lists.sort? a (← v.items?))
  | "unique" =>
    if !a.positional.isEmpty then none
    a.onlyNames ["attribute", "case_sensitive"]
    return .ofList (← Lists.unique? a (← v.items?))
  | "groupby" =>
    a.onlyNames ["attribute", "case_sensitive", "default"]
    return .ofList (← Lists.groupBy? a (← v.items?))
  | "dictsort" =>
    if !a.positional.isEmpty then none
    a.onlyNames ["by", "case_sensitive", "reverse"]
    return .ofList (← Lists.sortPairs? a (← v.entries?))
  | "items" =>
    a.atMost 0
    return .stream ((← v.entries?).map fun e => .ofList [e.1, e.2])
  | "chain" => Lists.chain? (v :: a.all)
  | "zip" =>
    let lists ← (v :: a.all).mapM Value.items?
    return .stream (Lists.zip ((lists.map List.length).foldl max 0 + 1) lists)
  | _ => none

/-! ## Filters that use filters and tests -/

/-- The items that pass a test, or that count as true if none is named; with a path, what is
behind it is tested. -/
def selected? (keep : Bool) (path? : Option String) (v : Value) (args : List Value) :
    Option Value := do
  let passes (subject : Value) : Option Bool :=
    match args with
    | [] => some subject.truthy
    | test :: args => Test.run? test.text subject ⟨args, none⟩
  let known := match args with
    | [] => true
    | test :: _ => testNames.contains test.text
  if !known then none
  let kept ← (← v.items?).filterMapM fun item => do
    let subject ← path?.elim (some item) (Lists.path? item)
    return if (← passes subject) = keep then some item else none
  return .ofList kept

/-- The arguments from a place on; absent ones at the front count as not there. -/
def testOf (args : List Value) : List Value :=
  match args with
  | test :: rest => if test.isAbsent then [] else test :: rest
  | [] => []

/-- The value that a filter makes; filters inside filters nest at most `depth` deep. -/
def run? (escaping : Bool) : Nat → String → Value → Args → Option Value
  | 0, _, _, _ => none
  | depth + 1, name, v, a =>
    match name with
    | "select" => selected? true none v (testOf a.all)
    | "reject" => selected? false none v (testOf a.all)
    | "selectattr" => do selected? true (some (← a.text 0)) v (testOf (a.all.drop 1))
    | "rejectattr" => do selected? false (some (← a.text 0)) v (testOf (a.all.drop 1))
    | "map" => do
      let items ← v.items?
      match a.present? "attribute" with
      | some path =>
        if !a.positional.isEmpty then none
        let behind? (item : Value) : Option Value :=
          match path.string? with
          | some path => Lists.path? item path
          | none => item.item? path
        let values ← items.mapM fun item =>
          match behind? item, a.get? "default" with
          | some w, other? => some (if w.isUndefined then other?.getD w else w)
          | none, other? => other?
        return .ofList values
      | none =>
        match a.positional with
        | filter :: args =>
          let filter ← filter.string?
          if !filterNames.contains filter then none
          return .ofList (← items.mapM fun item => run? escaping depth filter item ⟨args, a.named?⟩)
        | [] => none
    | name =>
      match words? name v a with
      | some w => some w
      | none =>
        match values? name v a with
        | some w => some w
        | none => lists? escaping name v a

end EndpointStubs.Template.Filter
