import EndpointStubs.Decimal.Fixed
import EndpointStubs.Template.Filter.Arguments
import EndpointStubs.Template.Filter.Numbers

/-!
# The filter `format`

A text with fields: a percent sign, perhaps a name in parentheses, flags, a width, a precision,
and a letter that says how the value is written. Fields without a name take the positional
arguments one after the other, and all have to be taken.
-/

namespace EndpointStubs.Template.Format

/-- How a field is laid out. -/
structure Layout where
  left : Bool := false
  plus : Bool := false
  space : Bool := false
  zero : Bool := false
  alternate : Bool := false
  width : Nat := 0
  precision? : Option Nat := none

structure Field where
  name? : Option String
  layout : Layout
  letter : Char

/-! ## Reading fields -/

def cutFlags (l : Layout) : List Char → Layout × List Char
  | [] => (l, [])
  | c :: cs =>
    if c = '-' then cutFlags { l with left := true } cs
    else if c = '+' then cutFlags { l with plus := true } cs
    else if c = ' ' then cutFlags { l with space := true } cs
    else if c = '0' then cutFlags { l with zero := true } cs
    else if c = '#' then cutFlags { l with alternate := true } cs
    else (l, c :: cs)

/-- A field, after its percent sign. -/
def cutField (cs : List Char) : Option (Field × List Char) := do
  let (name?, cs) ← match cs with
    | '(' :: cs =>
      let (name, rest) := cs.span (· ≠ ')')
      if rest = [] then none else some (some (String.ofList name), rest.drop 1)
    | cs => some (none, cs)
  let (layout, cs) := cutFlags {} cs
  let (width, cs) := cs.span Char.isDigit
  let (precision?, cs) := match cs with
    | '.' :: cs =>
      let (ds, rest) := cs.span Char.isDigit
      (some (Literal.decimal ds), rest)
    | cs => (none, cs)
  match cs with
  | letter :: rest =>
    if Literal.decimal width > 100000 || precision?.any (· > 100000) then none
    else return (⟨name?, { layout with width := Literal.decimal width, precision? }, letter⟩, rest)
  | [] => none

/-! ## Writing fields -/

/-- Fills a field up to its width. A number with leading zeros keeps its sign in front. -/
def Layout.fill (l : Layout) (sign body : List Char) (isNumber : Bool) : List Char :=
  let missing := l.width - (sign.length + body.length)
  if l.left then sign ++ body ++ List.replicate missing ' '
  else if l.zero && isNumber then sign ++ List.replicate missing '0' ++ body
  else List.replicate missing ' ' ++ sign ++ body

def Layout.sign (l : Layout) (negative : Bool) : List Char :=
  if negative then ['-'] else if l.plus then ['+'] else if l.space then [' '] else []

def Layout.whole (l : Layout) (base : Nat) (lead : String) (upper : Bool) (n : Int) : List Char :=
  let ds := Nat.toDigits base n.natAbs
  let ds := if upper then ds.map Char.toUpper else ds
  let ds := List.replicate ((l.precision?.getD 0) - ds.length) '0' ++ ds
  l.fill (l.sign (n < 0) ++ if l.alternate then lead.toList else []) ds true

/-- Digits and an exponent of at least two digits. -/
def exponentText (digits : List Char) (mark : Char) (k : Int) : List Char :=
  let ks := Nat.toDigits 10 k.natAbs
  digits ++ mark :: (if k < 0 then '-' else '+') ::
    (List.replicate (2 - ks.length) '0' ++ ks)

/-- One digit before the point and the others after it. -/
def pointed (ds : List Char) : List Char :=
  ds.take 1 ++ if ds.length > 1 then '.' :: ds.drop 1 else []

/-- Without zeros at the end of a fraction, and without a point at the end. -/
def shortened (cs : List Char) : List Char :=
  if cs.contains '.' then
    let cs := (cs.reverse.dropWhile (· = '0')).reverse
    if cs.getLast? = some '.' then cs.dropLast else cs
  else cs

/-- A double that is not negative, by the letter of its field. -/
def Layout.magnitude (l : Layout) (letter : Char) (x : Float) : List Char :=
  let places := l.precision?.getD 6
  let scientific (places : Nat) : List Char × Int :=
    let (n, k) := Decimal.exponential places x
    let ds := Nat.toDigits 10 n
    (ds ++ List.replicate (places + 1 - ds.length) '0', k)
  let fixed (places : Nat) : List Char :=
    if x == 0 then Decimal.positional 0 (-(places : Int)) else Decimal.fixed places x
  if letter = 'f' || letter = 'F' then fixed places
  else if letter = 'e' || letter = 'E' then
    let (ds, k) := scientific places
    exponentText (pointed ds) letter k
  else
    let digits := max places 1
    let (ds, k) := scientific (digits - 1)
    let shorten (cs : List Char) : List Char := if l.alternate then cs else shortened cs
    if -4 ≤ k ∧ k < digits then shorten (fixed ((digits : Int) - 1 - k).toNat)
    else exponentText (shorten (pointed ds)) (if letter = 'g' then 'e' else 'E') k

def Layout.double (l : Layout) (letter : Char) (x : Float) : List Char :=
  let word (s : String) : List Char :=
    let s := if letter.isUpper then s.toUpper else s
    ({ l with zero := false }).fill (l.sign (Double.isNegative x && !x.isNaN)) s.toList false
  if x.isNaN then word "nan"
  else if x.isInf then word "inf"
  else l.fill (l.sign (Double.isNegative x)) (l.magnitude letter x.abs) true

def Field.write (f : Field) (v : Value) : Option (List Char) :=
  let l := f.layout
  let words (cs : List Char) : List Char :=
    l.fill [] (l.precision?.elim cs cs.take) false
  match f.letter with
  | 's' => some (words v.chars)
  | 'r' => some (words v.innerText.toList)
  | 'c' =>
    match v with
    | .string s _ => if s.length = 1 then some (words s.toList) else none
    | v => do return words [← Text.Quoted.charOf? (← v.count?)]
  | 'd' | 'i' | 'u' =>
    match v with
    | .float x => if x.isFinite then some (l.whole 10 "" false (Numbers.truncate x)) else none
    | v => v.int?.map (l.whole 10 "" false)
  | 'o' => v.int?.map (l.whole 8 "0o" false)
  | 'x' => v.int?.map (l.whole 16 "0x" false)
  | 'X' => v.int?.map (l.whole 16 "0X" true)
  | 'e' | 'E' | 'f' | 'F' | 'g' | 'G' => v.float?.map (l.double f.letter)
  | _ => none

/-- The text with its fields written; the arguments that are left. -/
def formatFrom (a : Args) : Nat → List Value → List Char → Option (List Char)
  | 0, _, _ => none
  | _, rest, [] => if rest.isEmpty then some [] else none
  | fuel + 1, rest, '%' :: cs => do
    let (f, cs) ← cutField cs
    if f.letter = '%' then return '%' :: (← formatFrom a fuel rest cs)
    match f.name?, rest with
    | some name, rest => return (← f.write (← a.get? name)) ++ (← formatFrom a fuel rest cs)
    | none, v :: rest => return (← f.write v) ++ (← formatFrom a fuel rest cs)
    | none, [] => none
  | fuel + 1, rest, c :: cs => do return c :: (← formatFrom a fuel rest cs)

/-- The text with its fields written. -/
def format? (a : Args) (cs : List Char) : Option (List Char) :=
  formatFrom a (cs.length + 1) a.positional cs

end EndpointStubs.Template.Format
