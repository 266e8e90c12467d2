import EndpointStubs.Config.Basic
import EndpointStubs.Session

/-!
# Removing the output

The working directory has to be there under its own path, and both output roots are looked up
before either is removed. A root that is, or contains, the working directory is never removed; then
nothing is.
-/

namespace EndpointStubs

/-- Why the output is not removed. -/
inductive CleanError where
  /-- The working directory is not found under its path. -/
  | unresolved (base : Path) (fault : Fault)
  /-- The root is the working directory or above it. -/
  | holdsWorkingDirectory (root : Path)
  | notRemoved (path : Path) (fault : Fault)
  deriving DecidableEq, Repr

def CleanError.message : CleanError → String
  | unresolved p f => "Failed to resolve " ++ p.text ++ ": " ++ f.message
  | holdsWorkingDirectory root =>
    "Refusing to remove " ++ root.text ++ ": it is or contains the working directory"
  | notRemoved p f => "Failed to remove " ++ p.text ++ ": " ++ f.message

def Config.roots (c : Config) : List Path := [c.generatedRoot, c.counterpartRoot]

namespace Clean

/-- What is to be removed for a root: nothing, if nothing is there. -/
def target (t : FileTree) (root : Path) : Except CleanError (Option Location) :=
  match t.lookup ((FileTree.pathOf t.cwd).join root) with
  | .error _ => .ok none
  | .ok (l, _) =>
    if l.isPrefixOf t.cwd then .error (.holdsWorkingDirectory root) else .ok (some l)

def targets (t : FileTree) (roots : List Path) : Except CleanError (List Location) :=
  (roots.mapM (target t)).map fun ls => ls.filterMap id

/-- Removes a directory, unless it went with another one. -/
def remove (l : Location) : Session CleanError Unit := do
  match (← Session.tree).get? l with
  | none => return
  | some (.file _) => throw (.notRemoved (FileTree.pathOf l) .notADirectory)
  | some .directory =>
    modify fun w => { w with tree := w.tree.erase l }
    Session.report ⟨.info, "stubgen::cli::commands", "removed output root",
      [("path", .shown (FileTree.pathOf l).text)]⟩

end Clean

def Config.clean (c : Config) : Session CleanError Unit := do
  let base := FileTree.pathOf (← Session.tree).cwd
  -- The path of a location has no detours, so it is its own canonical path.
  discard (Session.ask (.unresolved base) fun t => t.canonicalize base)
  let ls ← Session.ofExcept id (Clean.targets (← Session.tree) c.roots)
  ls.forM Clean.remove

end EndpointStubs
