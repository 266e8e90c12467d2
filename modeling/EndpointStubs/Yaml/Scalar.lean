import EndpointStubs.Yaml.Cursor

/-!
# Scalars

A scalar is plain, quoted, or a block of lines. Plain and quoted ones may go over several
lines, which are folded: a single line end becomes a blank, and of several the first one falls
away. Blocks keep their line ends or fold them, and keep or drop those at the end.
-/

namespace EndpointStubs.Yaml

open Read

/-! ## Plain scalars -/

/-- A character that ends a plain scalar between brackets. -/
def isFlowMark (c : Char) : Bool := ",[]{}".toList.contains c

/-- Characters of a plain scalar up to a blank or to what ends it; between brackets, a colon in
front of another mark is refused. -/
def plainWord (flow : Bool) : List Char → Option (List Char)
  | [] => some []
  | c :: cs =>
    if isBlank c || isBreak c then some []
    else if flow && c = ':' && cs.head?.any (fun d => d = '?' || isFlowMark d) then none
    else if (c = ':' && startsBlank cs) || (flow && isFlowMark c) then some []
    else (plainWord flow cs).map (c :: ·)

/-- The rest of a plain scalar after `text` and a gap, and whether a line end comes last. -/
def plainRest (flow : Bool) (indent : Nat) : Nat → List Char → Gap → Read (List Char × Bool)
  | 0, _, _ => failure
  | fuel + 1, text, gap => do
    if (← atDocumentMark) || (← isNext '#') then return (text, gap.hasBreak)
    match plainWord flow (← rest) with
    | none => failure
    | some word =>
      skip word.length
      let (text, gap) := if word = [] then (text, gap) else (text ++ gap.text ++ word, .blanks [])
      match ← rest with
      | c :: _ =>
        if !isBlank c && !isBreak c then return (text, gap.hasBreak)
        let gap ← readGap (indent ≤ ·) (← rest).length gap
        if !flow && (← column) < indent then return (text, gap.hasBreak)
        plainRest flow indent fuel text gap
      | [] => return (text, gap.hasBreak)

/-- A plain scalar whose further lines are indented by at least `indent`, and whether a line
end comes last. -/
def plainScalar (flow : Bool) (indent : Nat) : Read (List Char × Bool) := do
  plainRest flow indent ((← rest).length + 1) [] (.blanks [])

/-! ## Quoted scalars -/

/-- What a one-letter escape stands for. -/
def escape? : Char → Option Char
  | '0' => some '\x00'
  | 'a' => some '\x07'
  | 'b' => some '\x08'
  | 't' | '\t' => some '\t'
  | 'n' => some '\n'
  | 'v' => some '\x0b'
  | 'f' => some '\x0c'
  | 'r' => some '\r'
  | 'e' => some '\x1b'
  | ' ' => some ' '
  | '"' => some '"'
  | '/' => some '/'
  | '\\' => some '\\'
  | 'N' => some '\u0085'
  | '_' => some '\u00a0'
  | 'L' => some '\u2028'
  | 'P' => some '\u2029'
  | _ => none

/-- The number of digits in an escape of a code point. -/
def escapeWidth? : Char → Option Nat
  | 'x' => some 2
  | 'u' => some 4
  | 'U' => some 8
  | _ => none

/-- The character with the given hexadecimal digits. -/
def hexChar? (digits : List Char) : Option Char := do
  let values ← digits.mapM Text.Quoted.hexDigit?
  Text.Quoted.charOf? (values.foldl (fun n d => n * 16 + d) 0)

/-- The escape after a backslash: its character, and the number of characters it takes. -/
def readEscape : List Char → Option (Char × Nat)
  | [] => none
  | c :: cs =>
    match escapeWidth? c with
    | some n =>
      if cs.length < n then none else (hexChar? (cs.take n)).map fun d => (d, n + 1)
    | none => (escape? c).map fun d => (d, 1)

/-- What stands in quotes up to a blank or the closing quote, and whether an escaped line end
comes last. -/
def quotedWord (quote : Char) : Nat → Read (List Char × Bool)
  | 0 => failure
  | fuel + 1 => do
    match ← rest with
    | [] => return ([], false)
    | c :: cs =>
      if isBlank c || isBreak c then return ([], false)
      if c = quote then
        if quote = '\'' && cs.head? = some '\'' then
          skip 2
          let (word, escaped) ← quotedWord quote fuel
          return ('\'' :: word, escaped)
        return ([], false)
      if c = '\\' && quote = '"' then
        if cs.head?.any isBreak then
          skip 1
          let _ ← lineEnd
          return ([], true)
        match readEscape cs with
        | none => failure
        | some (d, n) =>
          skip (n + 1)
          let (word, escaped) ← quotedWord quote fuel
          return (d :: word, escaped)
      skip 1
      let (word, escaped) ← quotedWord quote fuel
      return (c :: word, escaped)

def quotedRest (quote : Char) : Nat → List Char → Read (List Char)
  | 0, _ => failure
  | fuel + 1, text => do
    require !(← atDocumentMark)
    require !(← rest).isEmpty
    let (word, escaped) ← quotedWord quote ((← rest).length + 1)
    if ← take? quote then return text ++ word
    let gap ← readGap (fun _ => true) (← rest).length (if escaped then .breaks [] [] else .blanks [])
    quotedRest quote fuel (text ++ word ++ gap.text)

def quotedScalar (quote : Char) : Read (List Char) := do
  take quote
  quotedRest quote ((← rest).length + 1) []

/-! ## Blocks of lines -/

/-- What becomes of the line ends at the end of a block. -/
inductive Chomping where
  | strip
  | clip
  | keep
  deriving DecidableEq

def chomping? : Read (Option Chomping) := do
  if ← take? '+' then return some .keep
  if ← take? '-' then return some .strip
  return none

/-- The digit of an indentation, if it is there; it is not zero. -/
def increment? : Read (Option Nat) := do
  match ← rest with
  | c :: _ =>
    if c.isDigit then
      require (c ≠ '0')
      skip 1
      return some (c.toNat - 48)
    return none
  | [] => return none

/-- Chomping and indentation, in any order. -/
def blockHeader : Read (Chomping × Option Nat) := do
  match ← chomping? with
  | some c => return (c, ← increment?)
  | none =>
    match ← increment? with
    | some n => return ((← chomping?).getD .clip, some n)
    | none => return (.clip, none)

/-- Empty lines in front of a line, with the columns that were seen; `indent` is the
indentation if it is known. -/
def emptyLines (indent : Option Nat) : Nat → List Char → Nat → Read (List Char × Nat)
  | 0, _, _ => failure
  | fuel + 1, text, widest => do
    let indented (column : Nat) : Bool := indent.all fun n => column < n
    let spaces := ((← rest).takeWhile (· = ' ')).length
    let start ← column
    skip (match indent with
      | some n => min spaces (n - start)
      | none => spaces)
    let widest := max widest (← column)
    require !(indented (← column) && (← isNext '\t'))
    if ← ahead fun cs => cs.head?.any isBreak then
      let e ← lineEnd
      emptyLines indent fuel (text ++ e) widest
    else return (text, widest)

def knownEmptyLines (indent : Nat) : Read (List Char) := do
  return (← emptyLines (some indent) ((← rest).length + 1) [] 0).1

/-- A block so far: its text, the line end of its last line, the empty lines after that, and
whether the last line starts with a blank. -/
structure BlockText where
  text : List Char
  lineEnd : List Char
  empty : List Char
  blank : Bool

/-- The line end and the empty lines before a next line that starts with a blank or not. -/
def BlockText.joint (b : BlockText) (folded blank : Bool) : List Char :=
  if folded && b.lineEnd = ['\n'] && !b.blank && !blank then
    if b.empty = [] then [' '] else b.empty
  else b.lineEnd ++ b.empty

/-- The lines of a block, all with the same indentation. -/
def blockLines (folded : Bool) (indent : Nat) : Nat → BlockText → Read BlockText
  | 0, _ => failure
  | fuel + 1, b => do
    if (← column) ≠ indent || (← rest).isEmpty then return b
    let blank ← ahead fun cs => cs.head?.any isBlank
    let line ← span fun c => !isBreak c
    let e ← lineEnd
    let empty ← knownEmptyLines indent
    blockLines folded indent fuel ⟨b.text ++ b.joint folded blank ++ line, e, empty, blank⟩

/-- A block inside an indentation; the parent's indentation is missing at the top. -/
def blockScalar (folded : Bool) (parent : Option Nat) : Read (List Char) := do
  skip 1
  let (chomping, increment) ← blockHeader
  finishLine
  let least := max ((parent.map (· + 1)).getD 0) 1
  let given := increment.map fun n => parent.getD 0 + n
  let (empty, widest) ← emptyLines given ((← rest).length + 1) [] 0
  let indent := given.getD (max widest least)
  let b ← blockLines folded indent ((← rest).length + 1) ⟨[], [], empty, false⟩
  return match chomping with
    | .strip => b.text
    | .clip => b.text ++ b.lineEnd
    | .keep => b.text ++ b.lineEnd ++ b.empty

end EndpointStubs.Yaml
