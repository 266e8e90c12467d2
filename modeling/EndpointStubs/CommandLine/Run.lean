import EndpointStubs.Clean
import EndpointStubs.CommandLine.Arguments
import EndpointStubs.Config.Load
import EndpointStubs.Json.Writer
import EndpointStubs.Processor
import EndpointStubs.Source.Collect

/-!
# Running commands

Generating writes the artifacts of one round of everything, inspecting only shows the model,
and cleaning removes the output. All three start from the same settings: the file and the
environment, then the flags.

    inspecting leaves the tree as it is
-/

namespace EndpointStubs

/-- Why a command fails. -/
inductive RunError where
  | config (cause : ConfigError)
  | clean (cause : CleanError)
  | nothingToScan
  | collect (cause : CollectError)
  | process (cause : ProcessError)
  deriving DecidableEq, Repr

def RunError.message : RunError → String
  | config e => e.message
  | clean e => e.message
  | nothingToScan => "Nothing to scan: pass at least one --src or --manifest"
  | collect e => e.message
  | process e => e.message

/-- What a command prints: its result, and notes aside. -/
structure Printout where
  result : String := ""
  notes : String := ""
  deriving DecidableEq, Repr

namespace Printout

/-- Texts on lines of their own. -/
def lines (ss : List String) : String :=
  String.ofList (ss.flatMap fun s => s.toList ++ ['\n'])

end Printout

/-! ## Models in print -/

/-- The fields of a model in order of their names, with what is missing among them. -/
def EndpointModel.summary (m : EndpointModel) : Json :=
  Json.ofFields
    (((m.facts.map fun f => (f.1, Json.ofString f.2)) ++
      [("missing", Json.ofStrings m.missingFields)]).mergeSort fun a b => decide (a.1 ≤ b.1))

namespace Command

/-! ## Steps -/

def settings (c : Command) (env : Environment) : Session RunError Config := do
  let base := FileTree.pathOf (← Session.tree).cwd
  let config ← Session.mapError .config (Config.loadEffective c.options.config base env)
  return config.withFlags c.options.flags

/-- One round of everything that a command names. -/
def collect (c : Command) (config : Config) : Session RunError Round := do
  if c.options.sources.isEmpty && c.options.manifests.isEmpty then throw .nothingToScan
  Session.mapError .collect
    (Origins.collect ⟨c.options.sources, c.options.manifests, config.rootPackage⟩)

/-! ## Commands -/

def reportLines (r : Report) : List String :=
  (if r.artifacts.isEmpty then ["No markers found, nothing generated"] else []) ++
    r.files.map fun p => "✅ " ++ p.text

def generate (c : Command) (env : Environment) : Session RunError Printout := do
  let config ← c.settings env
  if c.options.clean then Session.mapError .clean config.clean
  let round ← c.collect config
  let processor ← Session.mapError .process (Processor.ofConfig config)
  let report ← Session.mapError .process (processor.processRound round)
  return { result := Printout.lines (reportLines report) }

def inspect (c : Command) (env : Environment) : Session RunError Printout := do
  let config ← c.settings env
  let round ← c.collect config
  Session.reportAll (round.declarations.flatMap (Declaration.scanEvents .debug))
  return {
    result := Printout.lines [(scan round.declarations).summary.pretty]
    notes := Printout.lines (scanNotes round.declarations) }

def clean (c : Command) (env : Environment) : Session RunError Printout := do
  let config ← c.settings env
  Session.mapError .clean config.clean
  return {}

def run (c : Command) (env : Environment) : Session RunError Printout :=
  match c.name with
  | .generate => c.generate env
  | .inspect => c.inspect env
  | .clean => c.clean env

end Command

end EndpointStubs
