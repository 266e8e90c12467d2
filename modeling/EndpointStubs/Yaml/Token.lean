import EndpointStubs.Yaml.Scalar

/-!
# Tags, anchors and directives

The tokens of a document, and reading those that have a form of their own.
-/

namespace EndpointStubs.Yaml

open Read

inductive Token where
  | version (major minor : Nat)
  /-- The meaning of a tag's handle. -/
  | handle (name meaning : String)
  | documentStart
  | documentEnd
  | blockSequenceStart
  | blockMappingStart
  | blockEnd
  | flowSequenceStart
  | flowSequenceEnd
  | flowMappingStart
  | flowMappingEnd
  | blockEntry
  | flowEntry
  | key
  | value
  | reference (name : String)
  | anchor (name : String)
  | tag (handle suffix : String)
  | scalar (text : String) (plain : Bool)
  deriving DecidableEq, Repr

/-! ## Anchors -/

/-- Characters that may follow the name of an anchor. -/
def endsAnchor (cs : List Char) : Bool :=
  startsBlank cs || cs.head?.any fun c => "?:,]\x7d%@\x60".toList.contains c

def anchorName : Read String := do
  skip 1
  let name ← span isWordChar
  require (!name.isEmpty && (← ahead endsAnchor))
  return String.ofList name

/-! ## Tags -/

/-- A character of a tag; in full ones, some marks of collections may stand too. -/
def isTagChar (full : Bool) (c : Char) : Bool :=
  isWordChar c || ";/?:@&=+$.%!~*'()".toList.contains c || (full && ",[]".toList.contains c)

/-- The number of bytes that a first byte announces. -/
def byteWidth (b : Nat) : Nat :=
  if b < 0x80 then 1 else if b < 0xc0 then 0 else if b < 0xe0 then 2 else if b < 0xf0 then 3
  else if b < 0xf8 then 4 else 0

/-- A byte written as two digits after a percent sign. -/
def escapedByte : Read Nat := do
  match ← rest with
  | '%' :: a :: b :: _ =>
    match Text.Quoted.hexDigit? a, Text.Quoted.hexDigit? b with
    | some a, some b =>
      skip 3
      return a * 16 + b
    | _, _ => failure
  | _ => failure

/-- The bytes of a character written with percent signs. -/
def escapedBytes : Read (List UInt8) := do
  let first ← escapedByte
  let width := byteWidth first
  require (width ≠ 0)
  let others ← (List.range (width - 1)).mapM fun _ => do
    let b ← escapedByte
    require (0x80 ≤ b && b < 0xc0)
    return UInt8.ofNat b
  return UInt8.ofNat first :: others

def tagBytes (full : Bool) : Nat → Read (List UInt8)
  | 0 => failure
  | fuel + 1 => do
    match ← rest with
    | c :: _ =>
      if !isTagChar full c then return []
      let bytes ← if c = '%' then escapedBytes else do
        skip 1
        pure [UInt8.ofNat c.toNat]
      return bytes ++ (← tagBytes full fuel)
    | [] => return []

/-- The text of a tag. Bytes that are no text have a meaning that nothing asks for. -/
def tagText (full : Bool) : Read String := do
  let bytes ← tagBytes full ((← rest).length + 1)
  return (String.fromUTF8? ⟨bytes.toArray⟩).getD "?"

/-- The handle of a tag, or its start; in a directive only a handle. -/
def tagHandle (directive : Bool) : Read String := do
  take '!'
  let name ← span isWordChar
  if ← take? '!' then return "!" ++ String.ofList name ++ "!"
  require (!directive || name.isEmpty)
  return "!" ++ String.ofList name

/-- A tag after its mark: its handle and its suffix. -/
def tagParts : Read (String × String) := do
  if ← ahead fun cs => cs.drop 1 |>.head? |>.any (· = '<') then
    skip 2
    let text ← tagText true
    require (text ≠ "")
    take '>'
    return ("", text)
  let handle ← tagHandle false
  let cs := handle.toList
  if cs.length > 1 && cs.getLast? = some '!' then
    let suffix ← tagText false
    require (suffix ≠ "")
    return (handle, suffix)
  let suffix := String.ofList (cs.drop 1) ++ (← tagText false)
  return if suffix = "" then ("", "!") else ("!", suffix)

def tagToken (flow : Bool) : Read Token := do
  let (handle, suffix) ← tagParts
  require (← ahead fun cs => startsBlank cs || (flow && cs.head? = some ','))
  return .tag handle suffix

/-! ## Directives -/

def versionNumber : Read Nat := do
  let digits ← span Char.isDigit
  require (0 < digits.length && digits.length ≤ 9)
  return digits.foldl (fun n d => n * 10 + (d.toNat - 48)) 0

def directiveValue (name : String) : Read Token := do
  skipBlanks
  if name = "YAML" then
    let major ← versionNumber
    take '.'
    return .version major (← versionNumber)
  require (name = "TAG")
  let handle ← tagHandle true
  require (← ahead fun cs => cs.head?.any isBlank)
  skipBlanks
  let meaning ← tagText true
  require (meaning ≠ "" && (← ahead startsBlank))
  return .handle handle meaning

def directive : Read Token := do
  skip 1
  let name ← span isWordChar
  require (!name.isEmpty && (← ahead startsBlank))
  let t ← directiveValue (String.ofList name)
  finishLine
  return t

end EndpointStubs.Yaml
