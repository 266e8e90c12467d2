import EndpointStubs.Emit.Error
import EndpointStubs.QualifiedName

/-!
# Where artifacts go

A layout turns a qualified name into a path: a directory per package segment, and the
simple name with the extension as file name. A relocation moves a path from below one
directory to the same place below another.

    components (layout.path name) = components root ++ segments          (extension without slash)
    components (relocate p)       = components to ++ what p has after from
-/

namespace EndpointStubs

/-- The root and the extension of the files below it. -/
structure Layout where
  root : Path
  /-- Without the dot; may be empty. -/
  extension : String
  deriving DecidableEq, Repr

namespace Layout

def fileName (l : Layout) (simple : String) : String :=
  if l.extension = "" then simple else simple ++ "." ++ l.extension

def path (l : Layout) (name : String) : Except EmitError Path :=
  let segments := QualifiedName.segments name
  if segments.all QualifiedName.isSegment then
    let directory := segments.dropLast.foldl (fun p s => p.join ⟨s⟩) l.root
    .ok (directory.join ⟨l.fileName (segments.getLast?.getD "")⟩)
  else .error (.invalidName name)

end Layout

/-- Moves paths below `source` to the same place below `target`. -/
structure Relocation where
  source : Path
  target : Path
  deriving DecidableEq, Repr

namespace Relocation

/-- The path below the target. What is moved has to be made of names. -/
def path (r : Relocation) (p : Path) : Except EmitError Path :=
  match p.stripPrefix? r.source with
  | some rest =>
    if rest.components.all fun c => match c with | .normal _ => true | _ => false then
      .ok (r.target.join rest)
    else .error (.unmapped p r.source)
  | none => .error (.unmapped p r.source)

end Relocation

end EndpointStubs
