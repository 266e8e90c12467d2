import EndpointStubs.Json.Reader
import EndpointStubs.Manifest
import EndpointStubs.Source.Tree
import EndpointStubs.Yaml.Document

/-!
# One round of everything

Sources and manifests together are one round, in the order in which they are named, sources
before manifests.
-/

namespace EndpointStubs

/-! ## Manifests in files -/

namespace Manifest

inductive Format where
  | yaml
  | json
  deriving DecidableEq, Repr

/-- The format of a file, by the end of its name. -/
def Format.ofPath (p : Path) : Format :=
  if p.extension? = some "yaml" || p.extension? = some "yml" then .yaml else .json

def ofText? : Format → String → Option Manifest
  | .yaml, s => (Yaml.read s).bind (ofDocument? Yaml.view)
  | .json, s => (Json.read s).bind (ofDocument? Json.view)

/-- Why a manifest gives no declarations. -/
inductive LoadError where
  | unreadable (path : Path) (fault : Fault)
  | malformed (path : Path) (format : Format)
  deriving DecidableEq, Repr

def LoadError.message : LoadError → String
  | unreadable p f => "Failed to read manifest: " ++ p.text ++ ": " ++ f.message
  | malformed p .yaml => "Failed to parse manifest: " ++ p.text ++ ": <yaml>"
  | malformed p .json => "Failed to parse manifest: " ++ p.text ++ ": <json>"

def load (t : FileTree) (p : Path) : Except LoadError Manifest :=
  match t.readText p with
  | .error f => .error (.unreadable p f)
  | .ok s =>
    match ofText? (Format.ofPath p) s with
    | some m => .ok m
    | none => .error (.malformed p (Format.ofPath p))

def loaded (p : Path) (count : Nat) : Event :=
  ⟨.debug, "stubgen::source::manifest", "loaded manifest",
    [("path", .shown p.text), ("declarations", .number count)]⟩

def loadRound (p : Path) : Session LoadError Round := do
  let m ← Session.ofExcept id (load (← Session.tree) p)
  Session.report (loaded p m.declarations.length)
  return m.round

end Manifest

/-! ## Everything -/

/-- Where declarations come from. -/
structure Origins where
  sources : List Path := []
  manifests : List Path := []
  rootPackage : Option String := none
  deriving DecidableEq, Repr

/-- Why there is no round. -/
inductive CollectError where
  | source (cause : SourceError)
  | manifest (cause : Manifest.LoadError)
  deriving DecidableEq, Repr

def CollectError.message : CollectError → String
  | source e => e.message
  | manifest e => e.message

namespace Origins

/-- The rounds of all origins, one after the other. -/
def rounds (o : Origins) : Session CollectError (List Round) := do
  let fromSources ← o.sources.mapM fun p =>
    Session.mapError .source (Source.scan p o.rootPackage)
  let fromManifests ← o.manifests.mapM fun p => Session.mapError .manifest (Manifest.loadRound p)
  return fromSources ++ fromManifests

def collect (o : Origins) : Session CollectError Round := do
  return (← o.rounds).foldl Round.extend {}

end Origins

end EndpointStubs
