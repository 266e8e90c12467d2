import EndpointStubs.Text.Blank
import EndpointStubs.Text.Quoted
import EndpointStubs.Unicode.Alphanumeric

/-!
# Patterns of values

A pattern is a regular expression without back references and without a look at what lies
around. Properties of characters are known for ASCII alone, so `\w` and its like need the mode
`-u`, and the mode `i` needs it as well.

    valid p = true    for the patterns p that can be searched for
-/

namespace EndpointStubs.Log.Pattern

/-- How a part of a pattern is read. -/
structure Mode where
  /-- Letters are ASCII. -/
  ascii : Bool := false
  /-- Upper and lower case count as the same. -/
  folded : Bool := false
  /-- Blanks and comments do not count. -/
  spaced : Bool := false

/-- Single characters can be read in the mode. -/
def Mode.knowsChars (m : Mode) : Bool := m.ascii || !m.folded

/-- Without what does not count in front. -/
def Mode.skip (m : Mode) : Nat → List Char → List Char
  | 0, cs => cs
  | n + 1, cs =>
    if !m.spaced then cs
    else
      match cs.dropWhile Text.isBlank with
      | '#' :: cs => m.skip n (cs.dropWhile (· ≠ '\n'))
      | cs => cs

/-! ## Escapes -/

inductive Escape where
  | char (c : Char)
  | set
  /-- A place between characters. -/
  | place

/-- Characters that mean something without a backslash. -/
def isMeta (c : Char) : Bool := "\\.+*?()|[]{}^$#&-~".toList.contains c

/-- Characters that a backslash leaves as they are. -/
def isPlainEscape (c : Char) : Bool :=
  isMeta c || (c.toNat < 0x80 && !c.isAlphanum && c ≠ '<' && c ≠ '>')

def isControlLetter (c : Char) : Bool := "aftnrv".toList.contains c

/-- The character of some hexadecimal digits. -/
def hexChar? (ds : List Char) : Option Char := do
  let values ← ds.mapM Text.Quoted.hexDigit?
  Text.Quoted.charOf? (values.foldl (fun n d => n * 16 + d) 0)

/-- The character of `count` hexadecimal digits in front, or of any number of them in braces. -/
def cutHex? (count : Nat) : List Char → Option (Escape × List Char)
  | '{' :: cs => do
    let (digits, rest) := cs.span (· ≠ '}')
    if digits.isEmpty || rest.isEmpty then none
    return (.char (← hexChar? digits), rest.drop 1)
  | cs => do
    if cs.length < count then none
    return (.char (← hexChar? (cs.take count)), cs.drop count)

def cutEscape? (m : Mode) : List Char → Option (Escape × List Char)
  | [] => none
  | c :: cs =>
    if c = 'x' then cutHex? 2 cs
    else if c = 'u' then cutHex? 4 cs
    else if c = 'U' then cutHex? 8 cs
    else if ['d', 's', 'w'].contains c then if m.ascii then some (.set, cs) else none
    else if ['b', 'B', '<', '>'].contains c then if m.ascii then some (.place, cs) else none
    else if c = 'A' || c = 'z' then some (.place, cs)
    else if isPlainEscape c then some (.char c, cs)
    else if isControlLetter c then some (.char '\t', cs)
    else none

/-! ## Classes -/

def classNames : List String :=
  ["alnum", "alpha", "ascii", "blank", "cntrl", "digit", "graph", "lower", "print", "punct",
   "space", "upper", "word", "xdigit"]

/-- A named class in its own brackets, after the opening one. -/
def cutNamedClass? : List Char → Option (List Char)
  | ':' :: cs =>
    let (name, rest) := (if cs.head? = some '^' then cs.drop 1 else cs).span (· ≠ ':')
    match rest with
    | ':' :: ']' :: rest => if classNames.contains (String.ofList name) then some rest else none
    | _ => none
  | _ => none

/-- What stands in a class before its members: a negation, hyphens, a bracket. -/
def cutClassStart? (m : Mode) (cs : List Char) : Option (List Char) :=
  let skip := m.skip (cs.length + 1)
  let cs := skip cs
  let (negated, cs) := match cs with
    | '^' :: cs => (true, skip cs)
    | cs => (false, cs)
  let rest := cs.dropWhile fun c => c = '-'
  let rest := match rest with
    | ']' :: after => if rest.length = cs.length then after else rest
    | rest => rest
  if negated && m.ascii then none else some rest

/-- A member of a class; the character that it is, if it is one. -/
def cutMember? (m : Mode) : List Char → Option (Option Char × List Char)
  | [] => none
  | '\\' :: cs =>
    match cutEscape? m cs with
    | some (.char c, rest) => some (some c, rest)
    | some (.set, rest) => some (none, rest)
    | _ => none
  | c :: cs => some (some c, cs)

/-- A member or a range of members. -/
def cutRange? (m : Mode) (cs : List Char) : Option (List Char) := do
  let skip := m.skip (cs.length + 1)
  let (first, rest) ← cutMember? m cs
  match skip rest with
  | [] => none
  | '-' :: after =>
    let after := skip after
    if after.head? = some ']' || after.head? = some '-' then some rest
    else
      let (last, rest) ← cutMember? m after
      if (← first) ≤ (← last) then some rest else none
  | _ => some rest

/-- The members of a class inside `depth` others; what follows the outermost one. -/
def cutMembers? (m : Mode) : Nat → Nat → List Char → Option (List Char)
  | 0, _, _ => none
  | fuel + 1, depth, cs =>
    match m.skip (cs.length + 1) cs with
    | [] => none
    | '[' :: cs =>
      match cutNamedClass? cs with
      | some rest => cutMembers? m fuel depth rest
      | none => (cutClassStart? m cs).bind (cutMembers? m fuel (depth + 1))
    | ']' :: cs => if depth = 0 then some cs else cutMembers? m fuel (depth - 1) cs
    | '&' :: '&' :: cs | '-' :: '-' :: cs | '~' :: '~' :: cs => cutMembers? m fuel depth cs
    | cs => (cutRange? m cs).bind (cutMembers? m fuel depth)

/-- A class, after its opening bracket. -/
def cutClass? (m : Mode) (cs : List Char) : Option (List Char) :=
  if m.knowsChars then (cutClassStart? m cs).bind (cutMembers? m (cs.length + 1) 0) else none

/-! ## Groups -/

/-- What an opening parenthesis starts. -/
inductive GroupStart where
  | group (name : List Char) (m : Mode)
  /-- A change of mode up to the end of the group around it. -/
  | change (m : Mode)

/-- The mode after flags, each of which counts once, as does the hyphen that turns flags off;
flags end before a colon or a parenthesis. -/
def readFlags : Mode → Bool → List Char → List Char → Option (Mode × List Char)
  | _, _, _, [] => none
  | m, off, seen, c :: cs =>
    if c = ':' || c = ')' then if seen.head? = some '-' then none else some (m, c :: cs)
    else if seen.contains c || !"imsUuRx-".toList.contains c then none
    else
      let m := match c with
        | 'u' => { m with ascii := off }
        | 'i' => { m with folded := !off }
        | 'x' => { m with spaced := !off }
        | _ => m
      readFlags m (off || c = '-') (c :: seen) cs

/-- A character of a group's name. -/
def isNameChar (first : Bool) (c : Char) : Bool :=
  c = '_' || (if first then c.isAlpha else Unicode.isAlphanumeric c || ['.', '[', ']'].contains c)

/-- A group's name up to its closing bracket. -/
def cutName? (m : Mode) (cs : List Char) : Option (GroupStart × List Char) :=
  let (name, rest) := cs.span (· ≠ '>')
  match name with
  | [] => none
  | c :: name =>
    if rest.isEmpty || !isNameChar true c || !name.all (isNameChar false) then none
    else some (.group (c :: name) m, rest.drop 1)

/-- What stands after an opening parenthesis. -/
def cutGroupStart? (m : Mode) : List Char → Option (GroupStart × List Char)
  | '?' :: '<' :: c :: cs => if c = '=' || c = '!' then none else cutName? m (c :: cs)
  | '?' :: 'P' :: '<' :: cs => cutName? m cs
  | '?' :: ')' :: _ => none
  | '?' :: cs => do
    let (m, rest) ← readFlags m false [] cs
    return (if rest.head? = some ')' then .change m else .group [] m, rest.drop 1)
  | cs => some (.group [] m, cs)

/-! ## Patterns -/

/-- The rest of a pattern can be read; `outer` holds the modes of the groups around it, and
`names` those of all groups so far. What stands before may be repeated or not. -/
def readsFrom : Nat → Mode → List Mode → List (List Char) → Bool → List Char → Bool
  | 0, _, _, _, _, _ => false
  | fuel + 1, m, outer, names, repeatable, cs =>
    match m.skip (cs.length + 1) cs with
    | [] => outer.isEmpty
    | '(' :: cs =>
      match cutGroupStart? m cs with
      | none => false
      | some (.change m, rest) => readsFrom fuel m outer names false rest
      | some (.group name inner, rest) =>
        !(name ≠ [] && names.contains name) &&
          readsFrom fuel inner (m :: outer) (name :: names) false rest
    | ')' :: cs =>
      match outer with
      | [] => false
      | m :: outer => readsFrom fuel m outer names true cs
    | '|' :: cs => readsFrom fuel m outer names false cs
    | '[' :: cs =>
      match cutClass? m cs with
      | none => false
      | some rest => readsFrom fuel m outer names true rest
    | '{' :: _ => false
    | '\\' :: cs =>
      match cutEscape? m cs with
      | none => false
      | some (.char _, rest) => m.knowsChars && readsFrom fuel m outer names true rest
      | some (_, rest) => readsFrom fuel m outer names true rest
    | '^' :: cs | '$' :: cs => readsFrom fuel m outer names true cs
    | '.' :: cs => !m.ascii && readsFrom fuel m outer names true cs
    | c :: cs =>
      if ['?', '*', '+'].contains c then
        repeatable &&
          readsFrom fuel m outer names true (if cs.head? = some '?' then cs.drop 1 else cs)
      else m.knowsChars && readsFrom fuel m outer names true cs

/-- A pattern that can be searched for. A brace repeats nothing: the directive around a pattern
ends at its closing one. -/
def valid (cs : List Char) : Bool := readsFrom (cs.length + 1) {} [] [] false cs

/-! ## Numbers -/

/-- Digits, perhaps with a point and an exponent. -/
def isUnsignedNumber (cs : List Char) : Bool :=
  let (whole, rest) := cs.span Char.isDigit
  let (fraction, rest) := match rest with
    | '.' :: rest => rest.span Char.isDigit
    | rest => ([], rest)
  let exponent (cs : List Char) : Bool := !cs.isEmpty && cs.all Char.isDigit
  !(whole ++ fraction).isEmpty &&
    match rest with
    | [] => true
    | e :: rest =>
      (e = 'e' || e = 'E') && match rest with
        | '+' :: ds | '-' :: ds => exponent ds
        | ds => exponent ds

/-- A number with a plus sign, which is no pattern. -/
def isPlusNumber : List Char → Bool
  | '+' :: cs =>
    isUnsignedNumber cs || ["inf", "infinity", "nan"].contains (String.ofList (cs.map Char.toLower))
  | _ => false

/-- What a field can be compared with: a number, a truth value or a pattern. -/
def isValue (cs : List Char) : Bool := isPlusNumber cs || valid cs

end EndpointStubs.Log.Pattern
