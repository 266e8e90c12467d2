import EndpointStubs.FileTree.Fault
import EndpointStubs.Path

/-!
# Trees of files

A tree of files without links: below the root, each location holds a directory or a file.
One directory is the working directory, where relative paths start. A path is followed
piece by piece, and every step needs a directory to stand in.

    t.get? (t.insert l e) l = e                    for l other than the root
    t.follow at (p ++ q) = (t.follow at p).bind (t.follow · q)
-/

namespace EndpointStubs

/-- The names from the root down. -/
abbrev Location := List String

/-- What a location holds. -/
inductive Entry where
  | directory
  | file (bytes : ByteArray)

instance : DecidableEq Entry
  | .directory, .directory => isTrue rfl
  | .directory, .file _ => isFalse nofun
  | .file _, .directory => isFalse nofun
  | .file a, .file b => decidable_of_iff (a.data = b.data)
      ⟨fun h => congrArg Entry.file (ByteArray.ext h), fun h => congrArg ByteArray.data (Entry.file.inj h)⟩

/-- A tree of files and its working directory. -/
structure FileTree where
  entries : List (Location × Entry)
  cwd : Location
  deriving DecidableEq

namespace FileTree

/-- What a location holds; the root is always a directory. -/
def get? (t : FileTree) (l : Location) : Option Entry :=
  if l = [] then some .directory else (t.entries.find? fun e => e.1 = l).map Prod.snd

/-- Puts an entry at a location that holds none. -/
def insert (t : FileTree) (l : Location) (e : Entry) : FileTree :=
  { t with entries := t.entries ++ [(l, e)] }

/-- Removes a location with all below it. -/
def erase (t : FileTree) (l : Location) : FileTree :=
  { t with entries := t.entries.filter fun e => !l.isPrefixOf e.1 }

/-- A new entry is found where it was put, if nothing was there. -/
theorem get?_insert_self {t : FileTree} {l : Location} (e : Entry) (h : t.get? l = none) :
    (t.insert l e).get? l = some e := by
  have hl : l ≠ [] := by rintro rfl; simp [get?] at h
  simp only [get?, hl, if_false, Option.map_eq_none_iff] at h
  simp [get?, insert, hl, List.find?_append, h]

theorem get?_insert_of_ne {t : FileTree} {l k : Location} (e : Entry) (h : k ≠ l) :
    (t.insert l e).get? k = t.get? k := by
  simp [get?, insert, List.find?_append, h.symm]

/-! ## Following a path -/

/-- The longest name that a directory can hold, in bytes. -/
def maxName : Nat := 255

/-- The length at which a path is too long, in bytes. -/
def maxPath : Nat := 4096

def byteCount (cs : List Char) : Nat := (String.ofList cs).utf8ByteSize

/-- A location that has to be a directory. -/
def requireDirectory (t : FileTree) (l : Location) : Except Fault Unit :=
  match t.get? l with
  | some .directory => .ok ()
  | some (.file _) => .error .notADirectory
  | none => .error .notFound

/-- One piece of a path, from a directory. What it leads to need not exist. -/
def step (t : FileTree) (l : Location) (piece : List Char) : Except Fault Location := do
  t.requireDirectory l
  if Path.isFiller piece then return l
  if piece = ['.', '.'] then return l.dropLast
  if byteCount piece > maxName then throw .nameTooLong
  return l ++ [String.ofList piece]

/-- The pieces of a path, one after the other. -/
def follow (t : FileTree) : Location → List (List Char) → Except Fault Location
  | l, [] => .ok l
  | l, piece :: pieces => (t.step l piece).bind fun k => t.follow k pieces

/-- A path can be followed in two parts. -/
theorem follow_append (t : FileTree) (l : Location) (p q : List (List Char)) :
    t.follow l (p ++ q) = (t.follow l p).bind fun k => t.follow k q := by
  induction p generalizing l with
  | nil => rfl
  | cons a p ih =>
    simp only [List.cons_append, follow]
    cases t.step l a with
    | error e => rfl
    | ok k => exact ih k

/-- Texts that no access takes. -/
def checkText (p : Path) : Except Fault Unit := do
  if p.text.toList.contains '\x00' then throw .nulInName
  if p.text = "" then throw .notFound
  if p.text.utf8ByteSize ≥ maxPath then throw .nameTooLong

def start (t : FileTree) (p : Path) : Location := if p.isAbsolute then [] else t.cwd

/-- The location that a path leads to, whether or not something is there. -/
def resolve (t : FileTree) (p : Path) : Except Fault Location := do
  checkText p
  t.follow (t.start p) p.body

/-- The location and the entry that a path leads to. -/
def lookup (t : FileTree) (p : Path) : Except Fault (Location × Entry) := do
  let l ← t.resolve p
  match t.get? l with
  | some e => return (l, e)
  | none => throw .notFound

/-! ## Questions -/

def pathExists (t : FileTree) (p : Path) : Bool := (t.lookup p).isOk

def isDirectory (t : FileTree) (p : Path) : Bool :=
  match t.lookup p with
  | .ok (_, .directory) => true
  | _ => false

def isFile (t : FileTree) (p : Path) : Bool :=
  match t.lookup p with
  | .ok (_, .file _) => true
  | _ => false

/-- The absolute path of a location. -/
def pathOf (l : Location) : Path := ⟨"/" ++ Text.joinStrings "/" l⟩

/-- The absolute path, without detours, of something that is there. -/
def canonicalize (t : FileTree) (p : Path) : Except Fault Path := do
  let (l, _) ← t.lookup p
  return pathOf l

def readText (t : FileTree) (p : Path) : Except Fault String := do
  match (← t.lookup p).2 with
  | .directory => throw .isADirectory
  | .file bytes =>
    match String.fromUTF8? bytes with
    | some s => return s
    | none => throw .notText

end FileTree

end EndpointStubs
