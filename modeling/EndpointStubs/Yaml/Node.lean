import EndpointStubs.Yaml.Lexer

/-!
# From tokens to nodes

A document is a tree of texts, lists and mappings. An anchor names a node, which an alias
stands for; a node may hold an alias of its own.
-/

namespace EndpointStubs.Yaml

inductive Node where
  | reference (number : Nat)
  | scalar (tag : Option String) (text : String) (plain : Bool)
  | sequence (tag : Option String) (items : List Node)
  | mapping (tag : Option String) (entries : List (Node × Node))

instance : Inhabited Node := ⟨.scalar none "" true⟩

def Node.missing : Node := .scalar none "" true

/-- A node with an anchor: the anchor's number, and its place among all anchors. -/
structure Anchored where
  number : Nat
  place : Nat
  node : Node

/-- What remains to be read, and what is known so far. -/
structure Builder where
  tokens : List Token
  /-- What the handles of tags mean. -/
  handles : List (String × String) := []
  /-- The number of each anchor's name. -/
  names : List (String × Nat) := []
  /-- How many anchors there were. -/
  count : Nat := 0
  anchored : List Anchored := []

abbrev Build := StateT Builder Option

namespace Build

def next : Build (Option Token) := return (← get).tokens.head?

def skip : Build Unit := modify fun b => { b with tokens := b.tokens.drop 1 }

def take? (t : Token) : Build Bool := do
  if (← next) = some t then
    skip
    return true
  return false

def take (t : Token) : Build Unit := do
  if !(← take? t) then failure

/-! ## Anchors -/

/-- The number of a name: of its last anchor. -/
def numberOf (name : String) : Build Nat := do
  match (← get).names.find? fun n => n.1 = name with
  | some (_, n) => return n
  | none => failure

/-- An anchor's number is the count of names before it. Returns it with its place. -/
def reserve (name : String) : Build (Nat × Nat) := do
  let b ← get
  let number := b.names.length
  set { b with
    names := (name, number) :: b.names.filter fun n => n.1 ≠ name
    count := b.count + 1 }
  return (number, b.count)

def record (place : Nat × Nat) (n : Node) : Build Unit :=
  modify fun b => { b with anchored := ⟨place.1, place.2, n⟩ :: b.anchored }

/-! ## Properties -/

/-- The handles that every document knows. -/
def usualHandles : List (String × String) := [("!", "!"), ("!!", "tag:yaml.org,2002:")]

/-- The tag that a handle and a suffix stand for. -/
def resolve (handle suffix : String) : Build String := do
  if handle = "" then return suffix
  match ((← get).handles ++ usualHandles).find? fun h => h.1 = handle with
  | some (_, meaning) => return meaning ++ suffix
  | none => failure

def anchor? : Build (Option String) := do
  match ← next with
  | some (.anchor name) =>
    skip
    return some name
  | _ => return none

def tag? : Build (Option (String × String)) := do
  match ← next with
  | some (.tag handle suffix) =>
    skip
    return some (handle, suffix)
  | _ => return none

/-- An anchor and a tag, in any order. -/
def properties : Build (Option String × Option String) := do
  let early ← anchor?
  let parts ← tag?
  let anchor ← if early.isNone && parts.isSome then anchor? else pure early
  match parts with
  | some (handle, suffix) => return (anchor, some (← resolve handle suffix))
  | none => return (anchor, none)

/-! ## Nodes -/

/-- The next token is one of those, or there is none. -/
def isOneOf (ts : List Token) : Build Bool := return (← next).all ts.contains

mutual

/-- A node, unless one of the tokens is next: then nothing is written. -/
def nodeUnless (stops : List Token) (block indentless : Bool) : Nat → Build Node
  | 0 => failure
  | fuel + 1 => do
    if ← isOneOf stops then return .missing
    node block indentless fuel

/-- A node. Collections without brackets need `block`, and lists without an indentation of
their own need `indentless`. -/
def node (block indentless : Bool) : Nat → Build Node
  | 0 => failure
  | fuel + 1 => do
    match ← next with
    | some (.reference name) =>
      let number ← numberOf name
      skip
      return .reference number
    | _ =>
      let (anchor, tag) ← properties
      let place ← anchor.mapM reserve
      let n ← content block indentless (anchor.isSome || tag.isSome) tag fuel
      match place with
      | some p => record p n
      | none => pure ()
      return n

/-- What follows anchor and tag. -/
def content (block indentless marked : Bool) (tag : Option String) : Nat → Build Node
  | 0 => failure
  | fuel + 1 => do
    match ← next with
    | some (.scalar text plain) =>
      skip
      return .scalar (if tag = some "!" then none else tag) text plain
    | some .flowSequenceStart =>
      skip
      return .sequence tag (← flowItems true fuel)
    | some .flowMappingStart =>
      skip
      return .mapping tag (← flowEntries true fuel)
    | t =>
      if indentless && t = some .blockEntry then
        return .sequence tag (← indentlessItems fuel)
      if block && t = some .blockSequenceStart then
        skip
        return .sequence tag (← blockItems fuel)
      if block && t = some .blockMappingStart then
        skip
        return .mapping tag (← blockEntries fuel)
      if marked then return .scalar tag "" true
      failure

/-- The items of a list, up to its end. -/
def blockItems : Nat → Build (List Node)
  | 0 => failure
  | fuel + 1 => do
    if ← take? .blockEnd then return []
    take .blockEntry
    let n ← nodeUnless [.blockEntry, .blockEnd] true false fuel
    return n :: (← blockItems fuel)

/-- The items of a list without an indentation of its own. -/
def indentlessItems : Nat → Build (List Node)
  | 0 => failure
  | fuel + 1 => do
    if ← take? .blockEntry then
      let n ← nodeUnless [.blockEntry, .key, .value, .blockEnd] true false fuel
      return n :: (← indentlessItems fuel)
    return []

/-- The entries of a mapping, up to its end. -/
def blockEntries : Nat → Build (List (Node × Node))
  | 0 => failure
  | fuel + 1 => do
    if ← take? .blockEnd then return []
    take .key
    let stops := [.key, .value, .blockEnd]
    let k ← nodeUnless stops true true fuel
    let v ← if ← take? .value then nodeUnless stops true true fuel else pure .missing
    return (k, v) :: (← blockEntries fuel)

/-- The items between brackets, up to the closing one. -/
def flowItems (first : Bool) : Nat → Build (List Node)
  | 0 => failure
  | fuel + 1 => do
    if ← take? .flowSequenceEnd then return []
    if !first then take .flowEntry
    if ← take? .flowSequenceEnd then return []
    let n ← if ← take? .key then pairItem fuel else node false false fuel
    return n :: (← flowItems false fuel)

/-- A mapping of one entry that stands between brackets, after the mark of its key. A key that
is not written takes the next token with it. -/
def pairItem : Nat → Build Node
  | 0 => failure
  | fuel + 1 => do
    let k ← if ← isOneOf [.value, .flowEntry, .flowSequenceEnd] then do
        skip
        pure .missing
      else node false false fuel
    let v ← if ← take? .value then nodeUnless [.flowEntry, .flowSequenceEnd] false false fuel
      else pure .missing
    return .mapping none [(k, v)]

/-- The entries between braces, up to the closing one. -/
def flowEntries (first : Bool) : Nat → Build (List (Node × Node))
  | 0 => failure
  | fuel + 1 => do
    if ← take? .flowMappingEnd then return []
    if !first then take .flowEntry
    if ← take? .flowMappingEnd then return []
    let e ← if ← take? .key then do
        let k ← nodeUnless [.value, .flowEntry, .flowMappingEnd] false false fuel
        let v ← if ← take? .value then nodeUnless [.flowEntry, .flowMappingEnd] false false fuel
          else pure .missing
        pure (k, v)
      else do
        let k ← node false false fuel
        pure (k, .missing)
    return e :: (← flowEntries false fuel)

end

/-! ## Documents -/

/-- The directives of a document; tells whether there are any. -/
def directives : Nat → Bool → Build Bool
  | 0, _ => failure
  | fuel + 1, versioned => do
    match ← next with
    | some (.version major minor) =>
      if versioned || major ≠ 1 || (minor ≠ 1 && minor ≠ 2) then failure
      skip
      let _ ← directives fuel true
      return true
    | some (.handle name meaning) =>
      if (← get).handles.any fun h => h.1 = name then failure
      skip
      modify fun b => { b with handles := (name, meaning) :: b.handles }
      let _ ← directives fuel versioned
      return true
    | _ => return false

/-- The only document of a text; nothing if there is none. -/
def document : Build Node := do
  let fuel := 4 * (← get).tokens.length + 8
  let directed ← directives fuel false
  if !directed && (← next).isNone then return .missing
  let explicit ← take? .documentStart
  if directed && !explicit then failure
  let empty ← if explicit then isOneOf [.documentStart, .documentEnd] else pure false
  let n ← if empty then pure .missing else node true false fuel
  modify fun b => { b with tokens := b.tokens.dropWhile (· = .documentEnd) }
  if (← next).isSome then failure
  return n

end Build

end EndpointStubs.Yaml
