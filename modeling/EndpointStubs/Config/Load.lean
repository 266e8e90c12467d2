import EndpointStubs.Config.Basic
import EndpointStubs.Session
import EndpointStubs.Toml.Reader

/-!
# Loading settings

A settings file is named on the command line, where it has to exist, or found under its usual
name in the working directory, where it may be missing.
-/

namespace EndpointStubs

/-- Why settings cannot be loaded. -/
inductive ConfigError where
  | notFound (path : Path)
  | unreadable (path : Path) (fault : Fault)
  | malformed (path : Path)
  deriving DecidableEq, Repr

def ConfigError.message : ConfigError → String
  | notFound p => "Config file not found: " ++ p.text
  | unreadable p f => "Failed to read config: " ++ p.text ++ ": " ++ f.message
  | malformed p => "Failed to parse config: " ++ p.text ++ ": <toml>"

namespace Config

/-- The usual name of a settings file. -/
def fileName : String := "stubgen.toml"

def reporter : String := "stubgen::config"

def ofText? (s : String) : Option Config :=
  (Toml.read s).bind fun entries => ofDocument? Toml.view (.table .header entries)

/-- The settings in a file; nothing if there is no such file. -/
def load (t : FileTree) (p : Path) : Except ConfigError (Option Config) :=
  if t.pathExists p then
    match t.readText p with
    | .error f => .error (.unreadable p f)
    | .ok s =>
      match ofText? s with
      | some c => .ok (some c)
      | none => .error (.malformed p)
  else .ok none

/-- The settings file: the named one, or the usual one if it exists. -/
def resolve (t : FileTree) (explicit : Option Path) (base : Path) :
    Except ConfigError (Option Path) :=
  match explicit with
  | some p => if t.pathExists p then .ok (some p) else .error (.notFound p)
  | none =>
    let candidate := base.join ⟨fileName⟩
    .ok (if t.pathExists candidate then some candidate else none)

/-- The settings of a file, if one is found. -/
def fromFile (t : FileTree) (explicit : Option Path) (base : Path) :
    Except ConfigError (Option Config) := do
  match ← resolve t explicit base with
  | some p => load t p
  | none => return none

/-- Defaults, then the settings file, then the environment. -/
def effective (t : FileTree) (explicit : Option Path) (base : Path) (env : Environment) :
    Except ConfigError Config := do
  return ((← fromFile t explicit base).getD {}).withEnvironment env

/-! ## Reports -/

/-- The report of a settings file about to be loaded. -/
def loading (p : Path) : Event := ⟨.debug, reporter, "loading config", [("path", .shown p.text)]⟩

/-- The report of a policy in the environment that is not recognized. -/
def environmentReports (env : Environment) : List Event :=
  match env.get? "STUBGEN_MODE" with
  | none => []
  | some text =>
    match Policy.parse? text with
    | some _ => []
    | none =>
      [⟨.warn, reporter, "ignoring unrecognized STUBGEN_MODE", [("value", .shown text)]⟩]

/-- Loads the effective settings and reports about it. -/
def loadEffective (explicit : Option Path) (base : Path) (env : Environment) :
    Session ConfigError Config := do
  let t ← Session.tree
  match resolve t explicit base with
  | .ok (some p) => Session.report (loading p)
  | _ => pure ()
  let c ← Session.ofExcept id (effective t explicit base env)
  Session.reportAll (environmentReports env)
  return c

end Config

end EndpointStubs
