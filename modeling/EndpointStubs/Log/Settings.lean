import EndpointStubs.Config.Basic
import EndpointStubs.Log.Filter

/-!
# Settings of the log

What is shown of the events of a run, and how, as the environment asks. Filter directives
come from one variable, or failing that a level does, and another variable adds directives
to either; a directive that cannot be read is told about and left out.
-/

namespace EndpointStubs.Log

/-- How events are written. -/
inductive Format where
  /-- A JSON object for each event. -/
  | json
  /-- A line of text for each event. -/
  | pretty
  deriving DecidableEq, Repr

namespace Format

def name : Format → String
  | json => "json"
  | pretty => "pretty"

/-- The format of that name, in any case; lines of text otherwise. -/
def ofName (s : String) : Format :=
  if Text.foldAscii s.toList = json.name.toList then json else pretty

end Format

/-- What the environment says about the log. -/
structure Settings where
  level : String := "info"
  format : Format := .pretty
  /-- Further directives, with commas between. -/
  directives : Option String := none
  /-- Show where in the program an event arises. -/
  location : Bool := false
  deriving DecidableEq, Repr

namespace Settings

def ofEnvironment (env : Environment) : Settings where
  level := (env.get? "STUBGEN_LOG_LEVEL").getD "info"
  format := ((env.get? "STUBGEN_LOG_FORMAT").map Format.ofName).getD .pretty
  directives := (env.get? "STUBGEN_LOG_FILTER").filter fun s => Text.trim s.toList ≠ []
  location := env.get? "STUBGEN_LOG_LOCATION" = some "true"

/-- The level by its name, in any case; another name asks for the usual one. -/
def threshold (s : Settings) : Event.Level :=
  let named (l : Event.Level) : Bool :=
    Text.foldAscii l.name.toList = Text.foldAscii s.level.toList
  ([Event.Level.trace, .debug, .warn, .error].find? named).getD .info

/-- The further directives, each with its text; there is none for one that cannot be read. -/
def further (s : Settings) : List (String × Option Directive) :=
  (((s.directives.map (Text.splitString ',')).getD []).map Text.trimmed).filterMap fun text =>
    if text = "" then none else some (text, Directive.ofText? text)

def filter (s : Settings) (env : Environment) : Filter :=
  let start := ((env.get? "RUST_LOG").bind Filter.ofText?).getD (Filter.ofLevel s.threshold)
  (s.further.filterMap Prod.snd).foldl Filter.add start

/-- What is said about directives that cannot be read. -/
def warnings (s : Settings) : List String :=
  s.further.filterMap fun d =>
    if d.2.isNone then some ("Warning: Invalid log filter directive: " ++ d.1) else none

end Settings

end EndpointStubs.Log
