import EndpointStubs.Text.Quoted

/-!
# TOML strings

Four forms: basic strings know escapes, literal strings know none, and each has a form in
three quotes that may hold line ends. Line ends are kept as they are written.
-/

namespace EndpointStubs.Toml

/-- Blanks inside a line. -/
def isBlank (c : Char) : Bool := c = ' ' || c = '\t'

/-- Characters that may stand in a comment or a string: no controls but the tab. -/
def isPlain (c : Char) : Bool := c = '\t' || (0x20 ≤ c.toNat && c.toNat ≠ 0x7f)

/-- The line end in front, if there is one, and what follows it. -/
def cutLineEnd? : List Char → Option (List Char)
  | '\n' :: cs => some cs
  | '\r' :: '\n' :: cs => some cs
  | _ => none

def dropLineEnd (cs : List Char) : List Char := (cutLineEnd? cs).getD cs

/-! ## Escapes -/

/-- The number that hexadecimal digits write. -/
def hexNumber? (ds : List Char) : Option Nat :=
  ds.foldlM (fun n d => (Text.Quoted.hexDigit? d).map (n * 16 + ·)) 0

/-- The character of `count` hexadecimal digits in front. -/
def cutHex? (count : Nat) (cs : List Char) : Option (Char × List Char) := do
  let digits := cs.take count
  if digits.length ≠ count then none
  let c ← Text.Quoted.charOf? (← hexNumber? digits)
  return (c, cs.drop count)

/-- The character of the escape after a backslash. -/
def cutEscape? : List Char → Option (Char × List Char)
  | 'b' :: cs => some ('\x08', cs)
  | 't' :: cs => some ('\t', cs)
  | 'n' :: cs => some ('\n', cs)
  | 'f' :: cs => some ('\x0c', cs)
  | 'r' :: cs => some ('\r', cs)
  | 'e' :: cs => some ('\x1b', cs)
  | '"' :: cs => some ('"', cs)
  | '\\' :: cs => some ('\\', cs)
  | 'x' :: cs => cutHex? 2 cs
  | 'u' :: cs => cutHex? 4 cs
  | 'U' :: cs => cutHex? 8 cs
  | _ => none

/-- Without blanks and line ends in front. -/
def dropBlankLines : Nat → List Char → List Char
  | 0, cs => cs
  | fuel + 1, cs =>
    let cs := cs.dropWhile isBlank
    match cutLineEnd? cs with
    | some rest => dropBlankLines fuel rest
    | none => cs

/-- After a backslash at a line end: blanks up to the line end, then all blanks and line
ends that follow. -/
def cutContinuation? (cs : List Char) : Option (List Char) :=
  (cutLineEnd? (cs.dropWhile isBlank)).map fun rest => dropBlankLines (rest.length + 1) rest

/-! ## The four forms -/

def readLiteral : List Char → Option (List Char × List Char)
  | [] => none
  | '\'' :: cs => some ([], cs)
  | c :: cs => if isPlain c then (readLiteral cs).map fun r => (c :: r.1, r.2) else none

def readBasic : Nat → List Char → Option (List Char × List Char)
  | 0, _ | _, [] => none
  | _ + 1, '"' :: cs => some ([], cs)
  | fuel + 1, '\\' :: cs => do
    let (c, cs) ← cutEscape? cs
    let r ← readBasic fuel cs
    return (c :: r.1, r.2)
  | fuel + 1, c :: cs =>
    if isPlain c then (readBasic fuel cs).map fun r => (c :: r.1, r.2) else none

/-- The closing three quotes, with up to two more quotes that belong to the string. -/
def cutClosing? (quote : Char) (cs : List Char) : Option (List Char × List Char) :=
  let quotes := (cs.takeWhile (· = quote)).length
  if quotes < 3 then none
  else
    let kept := min (quotes - 3) 2
    some (List.replicate kept quote, cs.drop (kept + 3))

/-- The rest of a string in three quotes; `escapes` tells the basic form. -/
def readLong (escapes : Bool) (quote : Char) : Nat → List Char → Option (List Char × List Char)
  | 0, _ => none
  | fuel + 1, cs =>
    match cutClosing? quote cs with
    | some r => some r
    | none =>
      match cs with
      | [] => none
      | '\r' :: '\n' :: rest =>
        (readLong escapes quote fuel rest).map fun r => ('\r' :: '\n' :: r.1, r.2)
      | c :: rest =>
        if escapes && c = '\\' then
          match cutContinuation? rest with
          | some rest => readLong escapes quote fuel rest
          | none => do
            let (c, rest) ← cutEscape? rest
            let r ← readLong escapes quote fuel rest
            return (c :: r.1, r.2)
        else if c = '\n' || isPlain c then
          (readLong escapes quote fuel rest).map fun r => (c :: r.1, r.2)
        else none

/-- A string of one line, as it may also stand for a key. -/
def readShort : List Char → Option (List Char × List Char)
  | '"' :: cs => readBasic (cs.length + 1) cs
  | '\'' :: cs => readLiteral cs
  | _ => none

def readString : List Char → Option (List Char × List Char)
  | '"' :: '"' :: '"' :: cs => readLong true '"' (cs.length + 1) (dropLineEnd cs)
  | '\'' :: '\'' :: '\'' :: cs => readLong false '\'' (cs.length + 1) (dropLineEnd cs)
  | cs => readShort cs

end EndpointStubs.Toml
