import EndpointStubs.Emit.Layout
import EndpointStubs.Session

/-!
# Emitting artifacts

An artifact is one text at two places: its canonical path and the counterpart of that path
under a second root. Both files are new; the canonical one is made first, and stays when the
other cannot be made.
-/

namespace EndpointStubs

/-- The two files of an artifact. -/
structure Artifact where
  name : String
  canonical : Path
  counterpart : Path
  deriving DecidableEq, Repr

/-- Both paths, the canonical one first. -/
def Artifact.files (a : Artifact) : List Path := [a.canonical, a.counterpart]

/-- Where artifacts are written. -/
structure Emitter where
  layout : Layout
  relocation : Relocation
  deriving DecidableEq, Repr

namespace Emitter

/-- Artifacts below one root, with their counterparts below another. -/
def ofRoots (generated counterpart : Path) (extension : String) : Emitter :=
  ⟨⟨generated, extension⟩, ⟨generated, counterpart⟩⟩

/-- The artifact of a name, written or not. -/
def targets (e : Emitter) (name : String) : Except EmitError Artifact := do
  let canonical ← e.layout.path name
  let counterpart ← e.relocation.path canonical
  return ⟨name, canonical, counterpart⟩

def reporter : String := "stubgen::generator::emitter"

/-- Makes the directories above a path. -/
def makeParents (p : Path) : Session EmitError Unit := do
  match p.parent? with
  | none => return
  | some parent =>
    let (result, t) := (← Session.tree).createDirectories parent
    modify fun w => { w with tree := t }
    Session.ofExcept (.directory parent) result

/-- Why a file could not be made. -/
def creationError (p : Path) : Fault → EmitError
  | .alreadyExists => .collision p
  | f => .file p f

/-- Writes a new file, with the directories above it. -/
def writeNew (p : Path) (contents : String) : Session EmitError Unit := do
  makeParents p
  Session.change (creationError p) fun t => t.createFile p contents.toUTF8
  Session.report ⟨.debug, reporter, "wrote generated source",
    [("path", .shown p.text), ("bytes", .number contents.utf8ByteSize)]⟩

def failure (name : String) (e : EmitError) : Event :=
  ⟨.error, reporter, "failed to emit generated source: " ++ e.message,
    [("artifact", .quoted name),
     ("path", .shown (match e.path? with | some p => "Some(" ++ p.quoted ++ ")" | none => "None")),
     ("error", .shown e.details)]⟩

/-- Writes both files of an artifact. -/
def write (e : Emitter) (name contents : String) : Session EmitError Artifact := do
  let a ← Session.ofExcept id (e.targets name)
  writeNew a.canonical contents
  writeNew a.counterpart contents
  return a

/-- Writes both files of an artifact and reports a failure. -/
def emit (e : Emitter) (name contents : String) : Session EmitError Artifact :=
  tryCatch (e.write name contents) fun err => do
    Session.report (failure name err)
    throw err

end Emitter

end EndpointStubs
