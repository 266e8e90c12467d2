import EndpointStubs.CommandLine.Program
import EndpointStubs.FileTree.Difference

/-!
# The command line

Takes a picture of the files that a run can see, runs the program on it, and does to the
files what the program did to the picture.
-/

namespace EndpointStubs.CommandLine

/-- A location as a path of the system. -/
def shown (l : Location) : String := (FileTree.pathOf l).text

/-- The location of an absolute path. -/
def locationOf (path : String) : Location := (Text.splitString '/' path).filter (· ≠ "")

/-- The picture with a location, if something is there, and everything below it. -/
partial def addBelow (t : FileTree) (l : Location) : IO FileTree := do
  let path := (← IO.currentDir) / shown l
  if !(← path.pathExists) then return t
  if ← path.isDir then
    let mut t := if (t.get? l).isSome then t else t.put l .directory
    for entry in ← path.readDir do
      t ← addBelow t (l ++ [entry.fileName])
    return t
  return t.put l (.file (← IO.FS.readBinFile path))

/-- The picture with the directories on the way to a path, and with what it leads to. -/
def addPath (t : FileTree) (p : Path) : IO FileTree := do
  let here ← IO.currentDir
  let mut t := t
  let mut path := if p.isAbsolute then here / "/" else here
  for piece in p.body do
    if !(← path.isDir) then return t
    let l := locationOf (← IO.FS.realPath path).toString
    if (t.get? l).isNone then t := t.put l .directory
    path := path / String.ofList piece
  if ← path.pathExists then
    addBelow t (locationOf (← IO.FS.realPath path).toString)
  else return t

/-- Everything that a run can see. -/
def picture (args : List String) (env : Environment) : IO FileTree := do
  let cwd := locationOf (← IO.FS.realPath (← IO.currentDir)).toString
  let t ← addBelow (.empty cwd) cwd
  let t ← (Program.inputs args).foldlM addPath t
  (Program.outputs args env t).foldlM addPath t

/-- Does to the files what turns the first picture into the second. -/
def apply (t u : FileTree) : IO Unit := do
  let start ← IO.currentDir
  for (l, e) in t.removed u do
    match e with
    | .directory => IO.FS.removeDir (start / shown l)
    | .file _ => IO.FS.removeFile (start / shown l)
  for (l, e) in t.added u do
    match e with
    | .directory => IO.FS.createDir (start / shown l)
    | .file bytes => IO.FS.writeBinFile (start / shown l) bytes

/-- The variables that the program knows, as they are set. -/
def environment : IO Environment :=
  Program.variableNames.filterMapM fun name => do
    return (← IO.getEnv name).map fun text => (name, text)

end EndpointStubs.CommandLine

open EndpointStubs in
def main (args : List String) : IO UInt32 := do
  let env ← CommandLine.environment
  let t ← CommandLine.picture args env
  let o := Program.run args env t
  CommandLine.apply t o.tree
  IO.print o.output
  IO.eprint o.messages
  return o.exitCode.toUInt32
