import EndpointStubs.FileTree.Basic

/-!
# Changes to a tree

New directories and files. Nothing that exists is ever replaced: a directory or file is only put
where nothing was.

    t.createDirectory p = .ok u → u = t.insert l .directory  with  t.get? l = none
    t.createFile p text = .ok u → u = t.insert l (.file …)   with  t.get? l = none
-/

namespace EndpointStubs.FileTree

/-! ## Building trees -/

/-- Puts an entry at a location, in place of what is there. -/
def replace (t : FileTree) (l : Location) (e : Entry) : FileTree := (t.erase l).insert l e

/-- Makes the directories above a location that are missing. -/
def ensureAbove (t : FileTree) (l : Location) : FileTree :=
  ((List.range l.length).map fun n => l.take n).foldl
    (fun t k => if (t.get? k).isSome then t else t.insert k .directory) t

/-- Puts an entry at a location, with the directories above it. -/
def put (t : FileTree) (l : Location) (e : Entry) : FileTree := (t.ensureAbove l).replace l e

/-- A tree whose working directory is empty. -/
def empty (cwd : Location) : FileTree :=
  ensureAbove ⟨[], cwd⟩ (cwd ++ [""])

/-! ## The place of a new entry -/

/-- Where a path would put a new entry. -/
inductive Place where
  /-- A path that ends in the root, `.` or `..` names no new entry. -/
  | taken
  /-- A name in an existing directory. -/
  | fresh (directory : Location) (name : List Char) (slash : Bool)

/-- The pieces before the last one, the last one, and whether slashes follow it; a path
without pieces has none. -/
def lastPiece? (body : List (List Char)) : Option (List (List Char) × List Char × Bool) :=
  match body.reverse.dropWhile List.isEmpty with
  | [] => none
  | piece :: before => some (before.reverse, piece, body.getLast? = some [])

/-- Follows all of a path but its last piece. -/
def placeOf (t : FileTree) (p : Path) : Except Fault Place := do
  checkText p
  match lastPiece? p.body with
  | none => return .taken
  | some (before, piece, slash) =>
    let l ← t.follow (t.start p) before
    t.requireDirectory l
    if piece = ['.'] || piece = ['.', '.'] then return .taken
    return .fresh l piece slash

/-- The location of a name in a directory, if it can be a name and nothing is there yet. -/
def freeLocation (t : FileTree) (directory : Location) (name : List Char) :
    Except Fault Location :=
  if byteCount name > maxName then .error .nameTooLong
  else
    let l := directory ++ [String.ofList name]
    if (t.get? l).isSome then .error .alreadyExists else .ok l

/-! ## Directories -/

def createDirectory (t : FileTree) (p : Path) : Except Fault FileTree := do
  match ← t.placeOf p with
  | .taken => throw .alreadyExists
  | .fresh directory name _ => return t.insert (← t.freeLocation directory name) .directory

/-- Makes the first directory of the list, and the later ones before it when it lacks them.
The result says whether the first is there; directories that were made stay. -/
def createFirst : List Path → FileTree → Except Fault Unit × FileTree
  | [], t => (.error .notFound, t)
  | p :: ps, t =>
    if p.text = "" then (.ok (), t)
    else
      match t.createDirectory p with
      | .ok u => (.ok (), u)
      | .error .notFound =>
        match createFirst ps t with
        | (.error f, u) => (.error f, u)
        | (.ok (), u) =>
          match u.createDirectory p with
          | .ok v => (.ok (), v)
          | .error f => if u.isDirectory p then (.ok (), u) else (.error f, u)
      | .error f => if t.isDirectory p then (.ok (), t) else (.error f, t)

/-- Makes a directory and all that are missing above it. -/
def createDirectories (t : FileTree) (p : Path) : Except Fault Unit × FileTree :=
  createFirst (p :: p.parents) t

/-! ## Files -/

/-- Makes a file where nothing was. -/
def createFile (t : FileTree) (p : Path) (bytes : ByteArray) : Except Fault FileTree := do
  match ← t.placeOf p with
  | .taken => throw .alreadyExists
  | .fresh directory name slash =>
    if slash then throw .isADirectory
    return t.insert (← t.freeLocation directory name) (.file bytes)

end EndpointStubs.FileTree
