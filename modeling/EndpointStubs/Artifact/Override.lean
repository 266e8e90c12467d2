import EndpointStubs.Artifact.Builtin
import EndpointStubs.Session
import EndpointStubs.Template.Reader.Statement
import EndpointStubs.Template.Render

/-!
# Templates that replace built-in artifacts

A directory may hold a template for either artifact; an artifact without one keeps its
built-in text. Each template can include or extend the other.
-/

namespace EndpointStubs

/-- Why an artifact has no text. -/
inductive TemplateError where
  | directoryNotFound (path : Path)
  | unreadable (path : Path) (fault : Fault)
  | malformed (path : Path)
  /-- Rendering a template failed. -/
  | failed (kind : ArtifactKind)
  deriving DecidableEq, Repr

def TemplateError.message : TemplateError → String
  | directoryNotFound p => "Template override directory not found: " ++ p.text
  | unreadable p f => "Failed to read template: " ++ p.text ++ ": " ++ f.message
  | malformed p => "Malformed template: " ++ p.text ++ ": <template>"
  | failed kind => "Failed to render " ++ kind.name ++ " override template: <template>"

/-- The templates that replace built-in texts, by the names of their files. -/
structure Overrides where
  library : Template.Library := []

namespace Overrides

def template? (o : Overrides) (kind : ArtifactKind) : Option (List Template.Stmt) :=
  o.library.lookup kind.overrideFile

def reporter : String := "stubgen::generator::templates"

/-- Adds the template of an artifact, if the directory holds one. -/
def loadOne (dir : Path) (o : Overrides) (kind : ArtifactKind) :
    Session TemplateError Overrides := do
  let p := dir.join ⟨kind.overrideFile⟩
  let fields := [("template", Event.Value.shown kind.name), ("path", Event.Value.shown p.text)]
  if !(← Session.tree).isFile p then
    Session.report ⟨.debug, reporter, "no override, using built-in", fields⟩
    return o
  let text ← Session.ask (.unreadable p) fun t => t.readText p
  match Template.read text with
  | none => throw (.malformed p)
  | some stmts =>
    Session.report ⟨.info, reporter, "loaded template override", fields⟩
    return ⟨o.library ++ [(kind.overrideFile, stmts)]⟩

def load (dir : Path) : Session TemplateError Overrides := do
  if !(← Session.tree).isDirectory dir then throw (.directoryNotFound dir)
  ArtifactKind.all.foldlM (loadOne dir) {}

def text (o : Overrides) (m : EndpointModel) (kind : ArtifactKind) :
    Except TemplateError String :=
  match o.template? kind with
  | none => .ok (kind.builtinText m)
  | some _ =>
    match Template.render o.library kind.overrideFile (kind.fields m) with
    | some s => .ok s
    | none => .error (.failed kind)

/-- Which artifacts have a template, for logs. -/
def details (o : Overrides) : String :=
  let flag (kind : ArtifactKind) : String := if (o.template? kind).isSome then "true" else "false"
  "Templates \x7b stub_base_overridden: " ++ flag .stubBase ++
    ", stub_overridden: " ++ flag .stub ++ " \x7d"

end Overrides

end EndpointStubs
