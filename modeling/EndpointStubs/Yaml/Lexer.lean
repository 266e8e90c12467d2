import EndpointStubs.Yaml.Token

/-!
# From text to tokens

Indentation opens and closes collections. A mapping's key is only known to be one when the
colon behind it is found: what may still become a key is remembered with the number of tokens
before it, and the tokens that the key needs are set in at that place.
-/

namespace EndpointStubs.Yaml

/-- Something that becomes a key if a colon follows. -/
structure PossibleKey where
  /-- Nothing else can stand at this place. -/
  required : Bool
  /-- The number of tokens before it. -/
  place : Nat
  index : Nat
  line : Nat
  column : Nat

/-- The tokens so far, and what the next ones depend on. -/
structure Lexer where
  cursor : Cursor
  tokens : Array Token := #[]
  /-- The possible keys of all open brackets, the innermost first. -/
  brackets : List (Option PossibleKey) := []
  /-- The possible key outside of brackets. -/
  outside : Option PossibleKey := none
  /-- The columns of the open collections without brackets, the innermost first. -/
  indents : List Nat := []
  /-- A key may start here. -/
  keyAllowed : Bool := true

abbrev Lex := StateT Lexer Option

namespace Lex

/-! ## State -/

def read {α : Type} (r : Read α) : Lex α := fun l =>
  (r.run l.cursor).map fun (a, c) => (a, { l with cursor := c })

def flow : Lex Bool := return !(← get).brackets.isEmpty

def push (t : Token) : Lex Unit := modify fun l => { l with tokens := l.tokens.push t }

/-- Sets a token in behind the first `n`. -/
def insertAt (n : Nat) (t : Token) : Lex Unit :=
  modify fun l => { l with tokens := l.tokens.insertIdxIfInBounds n t }

def allowKey (b : Bool) : Lex Unit := modify fun l => { l with keyAllowed := b }

/-- The possible key of the innermost brackets. -/
def key? : Lex (Option PossibleKey) := do
  let l ← get
  return match l.brackets with
    | k :: _ => k
    | [] => l.outside

def setKey (k : Option PossibleKey) : Lex Unit :=
  modify fun l =>
    match l.brackets with
    | _ :: ks => { l with brackets := k :: ks }
    | [] => { l with outside := k }

/-! ## Indentation -/

/-- Opens a collection at a column, unless one is open there; its first token comes behind the
first `n` tokens. -/
def openAt (column n : Nat) (t : Token) : Lex Unit := do
  if ← flow then return
  if (← get).indents.head?.all fun i => i < column then
    modify fun l => { l with indents := column :: l.indents }
    insertAt n t

def openHere (t : Token) : Lex Unit := do
  openAt (← read Read.column) (← get).tokens.size t

/-- Closes the collections to the right of a column, or all of them. -/
def closeTo (column : Option Nat) : Lex Unit := do
  if ← flow then return
  let closes (i : Nat) : Bool := column.all fun c => c < i
  for _ in (← get).indents.takeWhile closes do push .blockEnd
  modify fun l => { l with indents := l.indents.dropWhile closes }

/-! ## Possible keys -/

/-- A key is limited to one line and to 1024 characters. -/
def isStale (c : Cursor) (k : PossibleKey) : Bool :=
  k.line < c.line || k.index + 1024 < c.index

/-- Gives up possible keys that have become too long; none of them may be required. -/
def dropStale : Lex Unit := do
  let l ← get
  let fails (k : Option PossibleKey) : Bool := k.any fun k => isStale l.cursor k && k.required
  if (l.outside :: l.brackets).any fails then failure
  let keep (k : Option PossibleKey) : Option PossibleKey := k.filter fun k => !isStale l.cursor k
  modify fun l => { l with outside := keep l.outside, brackets := l.brackets.map keep }

/-- Gives up the possible key; it may not be required. -/
def dropKey : Lex Unit := do
  if (← key?).any PossibleKey.required then failure
  setKey none

/-- What comes next may be a key. -/
def saveKey : Lex Unit := do
  let l ← get
  if l.keyAllowed then
    dropKey
    let c := l.cursor
    let required := l.brackets.isEmpty && l.indents.head? = some c.column
    setKey (some ⟨required, l.tokens.size, c.index, c.line, c.column⟩)

/-! ## Tokens -/

/-- Takes blanks, comments and line ends between tokens. -/
def skipSpace : Nat → Lex Unit
  | 0 => return
  | fuel + 1 => do
    let l ← get
    let inFlow ← flow
    if ← read do return (← Read.column) = 0 && (← Read.isNext '\ufeff') then read (Read.skip 1)
    let _ ← read (Read.span fun c => c = ' ' || (c = '\t' && (inFlow || !l.keyAllowed)))
    read Read.skipComment
    if !(← read Read.lineEnd).isEmpty then
      if !inFlow then allowKey true
      skipSpace fuel

/-- A directive, or the mark of a document's start or end. -/
def documentToken (r : Read Token) : Lex Unit := do
  closeTo none
  dropKey
  allowKey false
  push (← read r)

def openBracket (t : Token) : Lex Unit := do
  saveKey
  modify fun l => { l with brackets := none :: l.brackets }
  allowKey true
  read (Read.skip 1)
  push t

def closeBracket (t : Token) : Lex Unit := do
  dropKey
  modify fun l => { l with brackets := l.brackets.drop 1 }
  allowKey false
  read (Read.skip 1)
  push t

def flowEntry : Lex Unit := do
  dropKey
  allowKey true
  read (Read.skip 1)
  push .flowEntry

/-- The mark of an entry of a list. -/
def blockEntry : Lex Unit := do
  if !(← flow) then
    if !(← get).keyAllowed then failure
    openHere .blockSequenceStart
  dropKey
  allowKey true
  read (Read.skip 1)
  push .blockEntry

def keyMark : Lex Unit := do
  let inFlow ← flow
  if !inFlow then
    if !(← get).keyAllowed then failure
    openHere .blockMappingStart
  dropKey
  allowKey !inFlow
  read (Read.skip 1)
  push .key

/-- The colon before a value; what stood before it becomes a key. -/
def valueMark : Lex Unit := do
  match ← key? with
  | some k =>
    insertAt k.place .key
    openAt k.column k.place .blockMappingStart
    setKey none
    allowKey false
  | none =>
    let inFlow ← flow
    if !inFlow then
      if !(← get).keyAllowed then failure
      openHere .blockMappingStart
    allowKey !inFlow
  read (Read.skip 1)
  push .value

/-- A token that may be a key, or the start of one. -/
def node (r : Read Token) : Lex Unit := do
  saveKey
  allowKey false
  push (← read r)

def block (folded : Bool) : Lex Unit := do
  dropKey
  allowKey true
  let text ← read (blockScalar folded (← get).indents.head?)
  push (.scalar (String.ofList text) false)

/-- A plain scalar. A key may start on the line after it. -/
def plain : Lex Unit := do
  saveKey
  allowKey false
  let indent := ((← get).indents.head?.map (· + 1)).getD 0
  let (text, ended) ← read (plainScalar (← flow) indent)
  if ended then allowKey true
  push (.scalar (String.ofList text) true)

def quoted (quote : Char) : Read Token :=
  return .scalar (String.ofList (← quotedScalar quote)) false

/-- A plain scalar starts with the given character, which `cs` follows. -/
def startsPlain (inFlow : Bool) (c : Char) (cs : List Char) : Bool :=
  !"\t-?:,[]{}#&*!|>'\"%@\x60".toList.contains c ||
    (c = '-' && !cs.head?.any isBlank) ||
    (!inFlow && (c = '?' || c = ':') && !startsBlank cs)

/-- The token that starts with the given character. -/
def token (c : Char) (cs : List Char) : Lex Unit := do
  let inFlow ← flow
  let mark := inFlow || startsBlank cs
  if ← read do return (← Read.column) = 0 && c = '%' then documentToken directive
  else if ← read Read.atDocumentMark then
    documentToken do
      Read.skip 3
      return if c = '-' then .documentStart else .documentEnd
  else if c = '[' then openBracket .flowSequenceStart
  else if c = '{' then openBracket .flowMappingStart
  else if c = ']' then closeBracket .flowSequenceEnd
  else if c = '}' then closeBracket .flowMappingEnd
  else if c = ',' then flowEntry
  else if c = '-' && startsBlank cs then blockEntry
  else if c = '?' && mark then keyMark
  else if c = ':' && mark then valueMark
  else if c = '*' then node do return .reference (← anchorName)
  else if c = '&' then node do return .anchor (← anchorName)
  else if c = '!' then node (tagToken inFlow)
  else if c = '|' && !inFlow then block false
  else if c = '>' && !inFlow then block true
  else if c = '\'' || c = '"' then node (quoted c)
  else if startsPlain inFlow c cs then plain
  else failure

def tokens : Nat → Lex Unit
  | 0 => failure
  | fuel + 1 => do
    skipSpace (fuel + 1)
    dropStale
    match ← read Read.rest with
    | [] =>
      closeTo none
      dropKey
    | c :: cs =>
      closeTo (some (← read Read.column))
      token c cs
      tokens fuel

end Lex

def readTokens (s : String) : Option (List Token) :=
  let cs := s.toList
  if cs.all isAllowed then
    ((Lex.tokens (cs.length + 2)).run { cursor := { rest := cs } }).map fun r => r.2.tokens.toList
  else none

end EndpointStubs.Yaml
