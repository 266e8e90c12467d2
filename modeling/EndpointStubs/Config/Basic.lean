import EndpointStubs.Document
import EndpointStubs.EndpointModel
import EndpointStubs.Json.Basic
import EndpointStubs.Manifest
import EndpointStubs.Path
import EndpointStubs.Toml.Table

/-!
# Settings

Where the artifacts of a round go and what else a run has to know. Settings come in layers:
defaults, a file, the environment, flags. A later layer replaces what it supplies and leaves
the rest.
-/

namespace EndpointStubs

/-- The settings of a run. -/
structure Config where
  generatedRoot : Path := ⟨"target/generated-sources/stubs"⟩
  counterpartRoot : Path := ⟨"target/generated-stub-sources"⟩
  /-- The extension of generated files, without the dot. -/
  extension : String := "rs"
  /-- Put in front of the packages of scanned sources. -/
  rootPackage : Option String := none
  policy : Policy := .lenient
  /-- The directory of templates that replace built-in ones. -/
  templates : Option Path := none
  deriving DecidableEq, Repr

abbrev Environment := List (String × String)

def Environment.get? (env : Environment) (name : String) : Option String :=
  (env.find? fun v => v.1 = name).map Prod.snd

namespace Config

/-! ## Documents -/

section Reading

variable {D : Type} (v : View D)

def pathOfDocument? (d : D) : Option Path := (v.text? d).map Path.mk

def policyOfDocument? (d : D) : Option Policy := (v.choice? d).bind Policy.ofName?

/-- The names of the settings in documents. -/
def names : List String :=
  ["generated_root", "mirror_root", "extension", "root_package", "mode", "templates"]

/-- Settings from a document; defaults stand for what is missing, and nothing else may be
there. -/
def ofDocument? (d : D) : Option Config := do
  let base : Config := {}
  match ← v.record? names true d with
  | [generatedRoot, counterpartRoot, extension, rootPackage, policy, templates] =>
    return {
      generatedRoot := ← View.orElse base.generatedRoot (pathOfDocument? v) generatedRoot
      counterpartRoot := ← View.orElse base.counterpartRoot (pathOfDocument? v) counterpartRoot
      extension := ← View.orElse base.extension v.text? extension
      rootPackage := ← View.orElse none (v.optional? v.text?) rootPackage
      policy := ← View.orElse base.policy (policyOfDocument? v) policy
      templates := ← View.orElse none (v.optional? (pathOfDocument? v)) templates }
  | _ => none

end Reading

def toJson (c : Config) : Json :=
  Json.ofFields
    [("generated_root", Json.ofString c.generatedRoot.text),
     ("mirror_root", Json.ofString c.counterpartRoot.text),
     ("extension", Json.ofString c.extension),
     ("root_package", Json.ofString? c.rootPackage),
     ("mode", Json.ofString c.policy.name),
     ("templates", Json.ofString? (c.templates.map Path.text))]

/-! ## Layers -/

/-- A package that is not empty. -/
def package? (text : String) : Option String := if text = "" then none else some text

/-- With what the environment supplies. An empty package hides the one below, and a policy
that is not recognized supplies nothing. -/
def withEnvironment (c : Config) (env : Environment) : Config where
  generatedRoot := ((env.get? "STUBGEN_GENERATED_ROOT").map Path.mk).getD c.generatedRoot
  counterpartRoot := ((env.get? "STUBGEN_MIRROR_ROOT").map Path.mk).getD c.counterpartRoot
  extension := c.extension
  rootPackage := ((env.get? "STUBGEN_ROOT_PACKAGE").map package?).getD c.rootPackage
  policy := ((env.get? "STUBGEN_MODE").bind Policy.parse?).getD c.policy
  templates := c.templates

/-- What a command line supplies. -/
structure Flags where
  generatedRoot : Option Path := none
  counterpartRoot : Option Path := none
  rootPackage : Option String := none
  policy : Option Policy := none
  templates : Option Path := none
  deriving DecidableEq, Repr

/-- With what flags supply. -/
def withFlags (c : Config) (f : Flags) : Config where
  generatedRoot := f.generatedRoot.getD c.generatedRoot
  counterpartRoot := f.counterpartRoot.getD c.counterpartRoot
  extension := c.extension
  rootPackage := (f.rootPackage.map package?).getD c.rootPackage
  policy := f.policy.getD c.policy
  templates := f.templates <|> c.templates

end Config

/-! ## TOML -/

namespace Toml

def Value.text? : Value → Option String
  | .text s => some s
  | _ => none

def Value.items? : Value → Option (List Value)
  | .emptyArray => some []
  | _ => none

def Value.fields? : Value → Option (List (Option String × Value))
  | .table _ entries => some (entries.map fun e => (some e.1, e.2))
  | _ => none

/-- The name of a choice: a text, or the only key of a table, without content. -/
def Value.choice? : Value → Option String
  | .text s => some s
  | .table _ [(name, .table _ [])] => some name
  | .table _ [(name, .emptyArray)] => some name
  | _ => none

def view : View Value where
  text? := Value.text?
  nothing? := fun _ => some false
  items? := Value.items?
  inOrder? := Value.items?
  fields? := Value.fields?
  choice? := Value.choice?

end Toml

end EndpointStubs
