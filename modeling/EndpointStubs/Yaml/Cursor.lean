import EndpointStubs.Text.Quoted

/-!
# Characters and lines

A place in a text with its line and column. Line ends are read as one line feed, except for
the separators of lines and paragraphs, which stay as they are. What lies between two words
of a text, blanks or line ends, is a gap: a single line end in it becomes a blank.
-/

namespace EndpointStubs.Yaml

/-! ## Characters -/

/-- A character that a text may hold. -/
def isAllowed (c : Char) : Bool :=
  let n := c.toNat
  c = '\t' || c = '\n' || c = '\r' || (0x20 ≤ n && n ≤ 0x7e) || n = 0x85 ||
    (0xa0 ≤ n && n ≠ 0xfffe && n ≠ 0xffff)

def isBreak (c : Char) : Bool :=
  c = '\n' || c = '\r' || c = '\u0085' || c = '\u2028' || c = '\u2029'

def isBlank (c : Char) : Bool := c = ' ' || c = '\t'

/-- A letter, a digit, `_` or `-`. -/
def isWordChar (c : Char) : Bool := c.isAlphanum || c = '_' || c = '-'

/-- Starts with a blank, a line end, or is at its end. -/
def startsBlank (cs : List Char) : Bool := cs.head?.all fun c => isBlank c || isBreak c

/-- Starts with a line end, or is at its end. -/
def startsBreak (cs : List Char) : Bool := cs.head?.all isBreak

def startsDocumentMark (cs : List Char) : Bool :=
  (cs.take 3 = ['-', '-', '-'] || cs.take 3 = ['.', '.', '.']) && startsBlank (cs.drop 3)

/-! ## Cursors -/

/-- A place in a text: what follows, and where it is. -/
structure Cursor where
  rest : List Char
  index : Nat := 0
  line : Nat := 0
  column : Nat := 0

abbrev Read := StateT Cursor Option

namespace Read

def rest : Read (List Char) := return (← get).rest

def column : Read Nat := return (← get).column

/-- What follows answers a question. -/
def ahead (question : List Char → Bool) : Read Bool := return question (← rest)

def isNext (c : Char) : Read Bool := ahead fun cs => cs.head? = some c

/-- Fails unless the condition holds. -/
def require (b : Bool) : Read Unit := if b then pure () else failure

/-- Goes on by `n` characters on the same line. -/
def skip (n : Nat) : Read Unit :=
  modify fun c => { c with
    rest := c.rest.drop n
    index := c.index + n
    column := c.column + n }

def take? (c : Char) : Read Bool := do
  if ← isNext c then
    skip 1
    return true
  return false

def take (c : Char) : Read Unit := do
  require (← take? c)

/-- Takes the characters that pass. -/
def span (p : Char → Bool) : Read (List Char) := do
  let cs := (← rest).takeWhile p
  skip cs.length
  return cs

def skipBlanks : Read Unit := do
  let _ ← span isBlank

/-- Takes a comment up to the end of its line. -/
def skipComment : Read Unit := do
  if ← isNext '#' then
    let _ ← span fun c => !isBreak c

/-- Takes a line end, if it follows, and returns what it is read as. -/
def lineEnd : Read (List Char) := do
  let (n, text) := match ← rest with
    | '\r' :: '\n' :: _ => (2, ['\n'])
    | c :: _ =>
      if c = '\u2028' || c = '\u2029' then (1, [c]) else if isBreak c then (1, ['\n']) else (0, [])
    | [] => (0, [])
  if n > 0 then
    modify fun c => { c with
      rest := c.rest.drop n
      index := c.index + n
      line := c.line + 1
      column := 0 }
  return text

/-- Takes blanks, a comment and the line end. -/
def finishLine : Read Unit := do
  skipBlanks
  skipComment
  require (← ahead startsBreak)
  let _ ← lineEnd

/-- The mark of a document's start or end follows at the start of a line. -/
def atDocumentMark : Read Bool := do
  return (← column) = 0 && (← ahead startsDocumentMark)

end Read

/-! ## Gaps -/

/-- What lies between two words. -/
inductive Gap where
  | blanks (cs : List Char)
  /-- Line ends; the first may be one that counts for nothing. -/
  | breaks (first others : List Char)

/-- There is a line end in it. -/
def Gap.hasBreak : Gap → Bool
  | blanks _ => false
  | breaks _ _ => true

/-- A single line feed becomes a blank; of several, the first one falls away. -/
def Gap.text : Gap → List Char
  | blanks cs => cs
  | breaks ['\n'] [] => [' ']
  | breaks ['\n'] others => others
  | breaks first others => first ++ others

/-- Takes what belongs to a gap. `tabs` tells at which columns a tab may follow a line end. -/
def readGap (tabs : Nat → Bool) : Nat → Gap → Read Gap
  | 0, g => return g
  | fuel + 1, g => do
    match ← Read.rest with
    | c :: _ =>
      if isBlank c then
        Read.require (c ≠ '\t' || !g.hasBreak || tabs (← Read.column))
        Read.skip 1
        readGap tabs fuel (match g with
          | .blanks cs => .blanks (cs ++ [c])
          | g => g)
      else if isBreak c then
        let text ← Read.lineEnd
        readGap tabs fuel (match g with
          | .blanks _ => .breaks text []
          | .breaks first others => .breaks first (others ++ text))
      else return g
    | [] => return g

end EndpointStubs.Yaml
