import EndpointStubs.Artifact.Override
import EndpointStubs.Config.Basic
import EndpointStubs.Emit.Emitter
import EndpointStubs.Scan

/-!
# Processing rounds

A processor scans a round, checks the model against its policy and writes the two artifacts
of the model, the base first. It stops at the first failure, and a round without markers is
none of its business.
-/

namespace EndpointStubs

/-- Why a round is not processed. -/
inductive ProcessError where
  /-- Both output roots are the same directory. -/
  | sameRoots (root : Path)
  | template (cause : TemplateError)
  | incomplete (cause : EndpointModel.Incomplete)
  | emit (cause : EmitError)
  deriving DecidableEq, Repr

def ProcessError.message : ProcessError → String
  | sameRoots root => "generated_root and mirror_root must differ, both are " ++ root.text
  | template cause => cause.message
  | incomplete cause => cause.message
  | emit cause => cause.fullMessage

/-- What processing a round came to. -/
structure Report where
  model? : Option EndpointModel := none
  artifacts : List Artifact := []

/-- The written files, in order. -/
def Report.files (r : Report) : List Path := r.artifacts.flatMap Artifact.files

structure Processor where
  overrides : Overrides
  emitter : Emitter
  policy : Policy

/-- The name of a policy in logs. -/
def Policy.details : Policy → String
  | lenient => "Lenient"
  | strict => "Strict"

namespace Processor

/-- Both paths lead to the same directory, as far as components and the tree can tell. -/
def sameDirectory (t : FileTree) (p q : Path) : Bool :=
  p.same q ||
    match t.canonicalize p, t.canonicalize q with
    | .ok p, .ok q => p.same q
    | _, _ => false

def ofConfig (c : Config) : Session ProcessError Processor := do
  if sameDirectory (← Session.tree) c.generatedRoot c.counterpartRoot then
    throw (.sameRoots c.generatedRoot)
  let overrides ← match c.templates with
    | some dir => Session.mapError .template (Overrides.load dir)
    | none => pure {}
  return ⟨overrides, .ofRoots c.generatedRoot c.counterpartRoot c.extension, c.policy⟩

/-- The processor for logs. -/
def details (p : Processor) : String :=
  "StubProcessor \x7b policy: " ++ p.policy.details ++ ", .. \x7d"

def reporter : String := "stubgen::generator::processor"

/-- The note that announces the artifacts of a model. -/
def writingNote (m : EndpointModel) : String := "Writing files for model: " ++ m.display

/-- The report of a written artifact. -/
def generated (kind : ArtifactKind) (a : Artifact) : Event :=
  ⟨.info, reporter, "generated stub source",
    [("template", .shown kind.name), ("artifact", .shown a.name),
     ("canonical", .shown a.canonical.text), ("mirror", .shown a.counterpart.text)]⟩

/-- Renders and writes one artifact. -/
def writeArtifact (p : Processor) (m : EndpointModel) (kind : ArtifactKind) :
    Session ProcessError Artifact := do
  let text ← Session.ofExcept .template (p.overrides.text m kind)
  let a ← Session.mapError .emit (p.emitter.emit (kind.nameIn m) text)
  Session.report (generated kind a)
  return a

def processRound (p : Processor) (r : Round) : Session ProcessError Report := do
  if r.isEmpty then
    Session.report ⟨.debug, reporter, "round carries no markers, skipping", []⟩
    return {}
  let m := scan r.declarations
  Session.reportAll (r.declarations.flatMap (Declaration.scanEvents .info))
  Session.report (.note .info (writingNote m))
  Session.ofExcept .incomplete (m.check p.policy)
  let artifacts ← ArtifactKind.all.mapM (p.writeArtifact m)
  return ⟨some m, artifacts⟩

end Processor

end EndpointStubs
