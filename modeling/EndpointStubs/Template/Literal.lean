import EndpointStubs.Text.Quoted

/-!
# Literals of templates

A string stands between quotes of either kind. It ends at the first quote of its kind that no
backslash precedes; its escapes are read after that. A number is a whole number, in base 2, 8,
10 or 16, or a decimal with a fraction or an exponent; underscores may stand among its digits.

    cutString q (s ++ q :: rest) = some (s, rest)      when `s` has neither `q` nor a backslash
-/

namespace EndpointStubs.Template.Literal

/-! ## Digits -/

/-- The number that digits of a base write. -/
def digits? (base : Nat) (ds : List Char) : Option Nat :=
  if ds = [] then none
  else ds.foldlM (fun n c => do
    let d ← Text.Quoted.hexDigit? c
    if d < base then return n * base + d else none) 0

/-- The number that digits write behind an optional plus sign. -/
def unsigned? (base : Nat) : List Char → Option Nat
  | '+' :: ds => digits? base ds
  | ds => digits? base ds

/-- The number that decimal digits write. -/
def decimal (ds : List Char) : Nat := ds.foldl (fun n d => n * 10 + (d.toNat - 48)) 0

/-! ## Strings -/

/-- The characters up to the closing quote, with their escapes as written, and the rest. -/
def cutString (quote : Char) : List Char → Option (List Char × List Char)
  | [] => none
  | '\\' :: c :: cs => (cutString quote cs).map fun r => ('\\' :: c :: r.1, r.2)
  | c :: cs => if c = quote then some ([], cs) else (cutString quote cs).map fun r => (c :: r.1, r.2)

/-- A unit of an escape: half of a pair of surrogates, or a character. -/
inductive Piece where
  | half (n : Nat)
  | char (c : Char)

/-- The code unit that four characters write. -/
def unit? (ds : List Char) : Option Piece := do
  let n ← unsigned? 16 ds
  if 0xd800 ≤ n ∧ n < 0xe000 then return .half n else return .char (Char.ofNat n)

/-- The character of a code point that an escape gives. -/
def codePoint? (n : Nat) : Option (List Piece) :=
  (Text.Quoted.charOf? n).map fun c => [.char c]

/-- What the characters after a backslash stand for, and the rest. A backslash before any other
character stands for itself. -/
def cutEscape : List Char → Option (List Piece × List Char)
  | [] => none
  | 'b' :: cs => some ([.char '\x08'], cs)
  | 'f' :: cs => some ([.char '\x0c'], cs)
  | 'n' :: cs => some ([.char '\n'], cs)
  | 'r' :: cs => some ([.char '\r'], cs)
  | 't' :: cs => some ([.char '\t'], cs)
  | 'u' :: cs => do
    let ds := cs.take 4
    if ds.length < 4 then none
    return ([← unit? ds], cs.drop 4)
  | 'x' :: cs => do
    let ds := cs.take 2
    if ds.length < 2 then none
    return (← codePoint? (← unsigned? 16 ds), cs.drop 2)
  | c :: cs =>
    if '0' ≤ c ∧ c ≤ '7' then
      let ds := ((c :: cs).take 3).takeWhile fun d => '0' ≤ d && d ≤ '7'
      (digits? 8 ds).bind codePoint? |>.map fun p => (p, (c :: cs).drop ds.length)
    else if ['"', '\'', '\\', '/'].contains c then some ([.char c], cs)
    else some ([.char '\\', .char c], cs)

/-- The pieces of a string, at most `fuel` escapes and characters long. -/
def piecesOf : Nat → List Char → Option (List Piece)
  | 0, _ => none
  | _, [] => some []
  | fuel + 1, '\\' :: cs => do
    let (ps, rest) ← cutEscape cs
    return ps ++ (← piecesOf fuel rest)
  | fuel + 1, c :: cs => do return .char c :: (← piecesOf fuel cs)

/-- The characters of pieces: two halves that follow each other make one. -/
def joinPieces : List Piece → Option (List Char)
  | [] => some []
  | .char c :: ps => (joinPieces ps).map (c :: ·)
  | .half h :: .half l :: ps =>
    if h < 0xdc00 ∧ 0xdc00 ≤ l then
      (joinPieces ps).map (Char.ofNat (0x10000 + (h - 0xd800) * 0x400 + (l - 0xdc00)) :: ·)
    else none
  | .half _ :: _ => none

/-- The text of a string as written between its quotes. -/
def unescape (cs : List Char) : Option String := do
  return String.ofList (← joinPieces (← piecesOf (cs.length + 1) cs))

/-! ## Numbers -/

inductive Number where
  | whole (n : Nat)
  | double (x : Float)

/-- The double nearest to `n · 10^e`. Exponents far outside the range of doubles are not
computed. -/
def scaled (n : Nat) (e : Int) : Float :=
  let size : Int := (Nat.toDigits 10 n).length
  if n = 0 then 0
  else if e + size > 400 then 1 / 0
  else if e + size < -400 then 0
  else Float.ofScientific n (e < 0) e.natAbs

/-- The double that digits with an optional point and exponent write; some digit stands before
the exponent. -/
def double? (cs : List Char) : Option Float :=
  let (whole, rest) := cs.span Char.isDigit
  let (fraction, rest) := match rest with
    | '.' :: rest => rest.span Char.isDigit
    | rest => ([], rest)
  let value (exponent : Int) : Float := scaled (decimal (whole ++ fraction)) (exponent - fraction.length)
  let plain (ds : List Char) : Option Nat := if ds ≠ [] && ds.all Char.isDigit then some (decimal ds) else none
  if whole = [] ∧ fraction = [] then none
  else
    match rest with
    | [] => some (value 0)
    | e :: rest =>
      if e ≠ 'e' ∧ e ≠ 'E' then none
      else
        match rest with
        | '-' :: ds => (plain ds).map fun n => value (-n)
        | '+' :: ds => (plain ds).map fun n => value n
        | ds => (plain ds).map fun n => value n

/-- Where reading stands inside a decimal number. -/
inductive Place where
  | whole
  | fraction
  /-- After the mark of an exponent. -/
  | mark
  | exponent

/-- A point after whole digits starts a fraction unless a name follows, which is then an
attribute. -/
def startsFraction : List Char → Bool
  | c :: _ => !(c.isAlpha || c = '_')
  | [] => true

/-- The characters of a decimal number, where it ends, and the rest. -/
def cutDecimal : Place → List Char → List Char × Place × List Char
  | p, [] => ([], p, [])
  | p, c :: cs =>
    let next? : Option Place :=
      if c.isDigit then
        some (match p with
          | .mark => .exponent
          | p => p)
      else if c = '_' then some p
      else
        match p with
        | .whole =>
          if c = '.' && startsFraction cs then some .fraction
          else if c = 'e' || c = 'E' then some .mark
          else none
        | .fraction => if c = 'e' || c = 'E' then some .mark else none
        | .mark => if c = '+' || c = '-' then some .exponent else none
        | .exponent => none
    match next? with
    | some p =>
      let (ds, last, rest) := cutDecimal p cs
      (c :: ds, last, rest)
    | none => ([], p, c :: cs)

/-- Digits without the underscores among them; none may stand at the end. -/
def withoutUnderscores (ds : List Char) : Option (List Char) :=
  if ds.getLast? = some '_' then none else some (ds.filter (· ≠ '_'))

/-- A whole number of up to 128 bits. -/
def whole? (base : Nat) (ds : List Char) : Option Number := do
  let n ← digits? base (← withoutUnderscores ds)
  if n < Nat.pow 2 128 then return .whole n else none

/-- The base that a number in front names. -/
def baseOf : List Char → Nat
  | '0' :: c :: _ =>
    if c = 'b' || c = 'B' then 2
    else if c = 'o' || c = 'O' then 8
    else if c = 'x' || c = 'X' then 16
    else 10
  | _ => 10

def cutNumber (cs : List Char) : Option (Number × List Char) := do
  let base := baseOf cs
  if base = 10 then
    let (ds, last, rest) := cutDecimal .whole cs
    match last with
    | .whole => return (← whole? 10 ds, rest)
    | _ => return (.double (← double? (← withoutUnderscores ds)), rest)
  else
    let (ds, rest) := (cs.drop 2).span fun c =>
      c.isDigit || c = '_' || (base = 16 && (Text.Quoted.hexDigit? c).isSome)
    return (← whole? base ds, rest)

end EndpointStubs.Template.Literal
