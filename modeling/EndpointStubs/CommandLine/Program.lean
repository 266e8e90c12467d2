import EndpointStubs.CommandLine.Run
import EndpointStubs.Log.Line

/-!
# The program

Arguments, an environment and a tree of files go in; an exit code, two texts and the tree
come out. The second text holds warnings about the log's filter, the log, the notes of the
command and last the failure.
-/

namespace EndpointStubs

/-- How a run of the program ends. -/
structure Outcome where
  exitCode : Nat
  /-- The result. -/
  output : String := ""
  /-- Everything else that is said, in order. -/
  messages : String := ""
  tree : FileTree

/-! ## Commands -/

namespace Outcome

def ofCommand (env : Environment) (r : Except RunError Printout × World) : Outcome :=
  let spoken := (Log.Settings.ofEnvironment env).warnings ++ Log.lines env r.2.events
  match r.1 with
  | .ok p => {
      exitCode := 0
      output := p.result
      messages := Printout.lines spoken ++ p.notes
      tree := r.2.tree }
  | .error e => {
      exitCode := 1
      messages := Printout.lines (spoken ++ ["❌ " ++ e.message])
      tree := r.2.tree }

end Outcome

/-! ## Arguments that are no command -/

def Program.usage : List String :=
  ["Usage: stubgen <COMMAND> [OPTIONS]",
   "",
   "Commands:",
   "  generate  Write the stubs of all endpoints",
   "  inspect   Show the model of all endpoints",
   "  clean     Remove the output",
   "",
   "Options:",
   "  --src <DIR>             Sources to scan; may be repeated",
   "  --manifest <FILE>       A manifest to load; may be repeated",
   "  --root-package <NAME>   Goes in front of the packages of sources",
   "  -c, --config <FILE>     The settings file",
   "  --generated-root <DIR>  Where the stubs go",
   "  --mirror-root <DIR>     Where they go a second time",
   "  --mode <MODE>           lenient or strict",
   "  --templates <DIR>       Templates that replace the built-in ones",
   "  --clean                 Remove the output first",
   "  -h, --help              Show this"]

/-- What is said about arguments that are no command. -/
def ArgumentError.message : ArgumentError → String
  | unknownArgument => "error: unexpected argument"
  | invalidValue => "error: a value is missing or not valid"
  | conflict => "error: an option is given more than once"
  | unwantedValue => "error: an option takes no value"
  | unknownCommand => "error: unrecognized subcommand"
  | missingCommand => "error: a subcommand is required"
  | helpWanted => ""

namespace Outcome

/-- The end of a run without a command. -/
def ofArgumentError (env : Environment) (e : ArgumentError) (t : FileTree) : Outcome :=
  let spoken := (Log.Settings.ofEnvironment env).warnings
  if e = .helpWanted then {
    exitCode := e.exitCode
    output := Printout.lines Program.usage
    messages := Printout.lines spoken
    tree := t }
  else {
    exitCode := e.exitCode
    messages := Printout.lines (spoken ++ e.message :: "" :: Program.usage)
    tree := t }

end Outcome

/-! ## The program -/

namespace Program

/-- The variables of the environment that make a difference. -/
def variableNames : List String :=
  ["STUBGEN_GENERATED_ROOT", "STUBGEN_MIRROR_ROOT", "STUBGEN_ROOT_PACKAGE", "STUBGEN_MODE",
   "STUBGEN_LOG_LEVEL", "STUBGEN_LOG_FORMAT", "STUBGEN_LOG_FILTER", "STUBGEN_LOG_LOCATION",
   "RUST_LOG"]

/-- The paths that arguments name for reading. -/
def inputs (args : List String) : List Path :=
  match Command.ofArguments args with
  | .ok c => c.options.sources ++ c.options.manifests ++ c.options.config.toList
  | .error _ => []

/-- The paths that the settings name. -/
def outputs (args : List String) (env : Environment) (t : FileTree) : List Path :=
  match Command.ofArguments args with
  | .ok c =>
    match ((c.settings env).runOn { tree := t }).1 with
    | .ok config => config.roots ++ config.templates.toList
    | .error _ => []
  | .error _ => []

def run (args : List String) (env : Environment) (t : FileTree) : Outcome :=
  match Command.ofArguments args with
  | .ok c => .ofCommand env ((c.run env).runOn { tree := t })
  | .error e => .ofArgumentError env e t

end Program

end EndpointStubs
