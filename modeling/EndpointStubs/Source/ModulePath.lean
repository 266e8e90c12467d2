import EndpointStubs.Path

/-!
# Module paths

The place of a file below its root names the module that it holds. The usual file names of a
directory's own module add nothing.

    modulePath base (base/c₁/…/cₙ) = [c₁, …, cₙ₋₁] ++ stem of cₙ      unless that is usual
-/

namespace EndpointStubs.Source

/-- Stems of files that hold the module of their directory. -/
def directoryStems : List String := ["lib", "main", "mod"]

/-- The names of the components that count. -/
def segmentNames (p : Path) : List String :=
  (p.components.map Path.Component.text).filter fun s => s ≠ "" && s ≠ "."

/-- The segments of the module that a file below a base holds. -/
def modulePath (base file : Path) : List String :=
  let relative := (file.stripPrefix? base).getD file
  let directories := (relative.parent?.map segmentNames).getD []
  match relative.fileStem? with
  | some stem => if directoryStems.contains stem then directories else directories ++ [stem]
  | none => directories

end EndpointStubs.Source
