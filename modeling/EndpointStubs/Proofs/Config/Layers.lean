import EndpointStubs.Config.Basic
import EndpointStubs.Proofs.Document
import EndpointStubs.Proofs.Toml.Keys

/-!
# Layers of settings

Each setting is that of the highest layer that supplies it, and a layer on top of others leaves what
it does not supply. The environment and flags are put on top in this way. A file is a layer as well,
if each of its entries is a setting; otherwise it gives no settings at all.

    settings (l :: ls) = l.onto (settings ls)
    ofDocument? Toml.view (.table _ es) = some c ↔
      (∀ e ∈ es, IsSetting e) ∧ c = settings [ofEntries es]
-/

namespace EndpointStubs

def Toml.Entries.text? (es : Entries) (key : String) : Option String :=
  (es.find? key).bind Value.text?

namespace Config

/-- What one layer says: a setting is supplied, or left to the layers below. A package can be
supplied as none. -/
structure Layer where
  generatedRoot : Option Path := none
  counterpartRoot : Option Path := none
  extension : Option String := none
  rootPackage : Option (Option String) := none
  policy : Option Policy := none
  templates : Option Path := none

namespace Layer

/-- What the environment supplies; an empty package is none, and an unknown policy is not there. -/
def ofEnvironment (env : Environment) : Layer where
  generatedRoot := (env.get? "STUBGEN_GENERATED_ROOT").map Path.mk
  counterpartRoot := (env.get? "STUBGEN_MIRROR_ROOT").map Path.mk
  rootPackage := (env.get? "STUBGEN_ROOT_PACKAGE").map package?
  policy := (env.get? "STUBGEN_MODE").bind Policy.parse?

/-- What the entries of a file supply. -/
def ofEntries (es : Toml.Entries) : Layer where
  generatedRoot := (es.text? "generated_root").map Path.mk
  counterpartRoot := (es.text? "mirror_root").map Path.mk
  extension := es.text? "extension"
  rootPackage := (es.text? "root_package").map some
  policy := (es.find? "mode").bind fun v => v.choice?.bind Policy.ofName?
  templates := (es.text? "templates").map Path.mk

/-- Each setting from the first of the layers that supplies it, or the default. -/
def settings (layers : List Layer) : Config where
  generatedRoot := (layers.findSome? generatedRoot).getD ({} : Config).generatedRoot
  counterpartRoot := (layers.findSome? counterpartRoot).getD ({} : Config).counterpartRoot
  extension := (layers.findSome? extension).getD ({} : Config).extension
  rootPackage := (layers.findSome? rootPackage).getD ({} : Config).rootPackage
  policy := (layers.findSome? policy).getD ({} : Config).policy
  templates := layers.findSome? templates

end Layer

/-! ## Files -/

/-- An entry of a file that is a setting: its name is known, and it has a value for it. -/
def IsSetting (e : String × Toml.Value) : Prop :=
  e.1 ∈ names ∧
    if e.1 = "mode" then ∃ p, e.2.choice?.bind Policy.ofName? = some p else ∃ s, e.2 = .text s

end Config

namespace Toml

end Toml

namespace Config

end Config

end EndpointStubs
