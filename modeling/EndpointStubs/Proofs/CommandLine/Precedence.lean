import EndpointStubs.Proofs.CommandLine.Alike
import EndpointStubs.Proofs.CommandLine.Settings
import EndpointStubs.Proofs.Config.Layers

/-!
# Which layer wins

Generating uses settings of three layers over the defaults: flags first, then the environment, then
the settings file. The first two are always there. The file is what can be wrong: one that is named
but is not there, one that cannot be read, and one that holds something other than settings.

    Found t explicit base (.ok file) →
      generate goes on with settings [ofFlags flags, ofEnvironment env, file]
-/

namespace EndpointStubs

namespace Config

/-- What the settings file comes to: a layer, which is empty if no file is named and none is found
under the usual name, or a failure. -/
inductive Found (t : FileTree) (explicit : Option Path) (base : Path) :
    Except ConfigError Layer → Prop
  | nothing : explicit = none → t.pathExists (base.join ⟨fileName⟩) = false →
      Found t explicit base (.ok {})
  | file {s : String} {es : Toml.Entries} : t.pathExists (path explicit base) = true →
      t.readText (path explicit base) = .ok s → Toml.read s = some es →
      (∀ e ∈ es, IsSetting e) → Found t explicit base (.ok (.ofEntries es))
  | notFound {p : Path} : explicit = some p → t.pathExists p = false →
      Found t explicit base (.error (.notFound p))
  | unreadable {f : Fault} : t.pathExists (path explicit base) = true →
      t.readText (path explicit base) = .error f →
      Found t explicit base (.error (.unreadable (path explicit base) f))
  | malformed {s : String} : t.pathExists (path explicit base) = true →
      t.readText (path explicit base) = .ok s →
      (¬∃ es, Toml.read s = some es ∧ ∀ e ∈ es, IsSetting e) →
      Found t explicit base (.error (.malformed (path explicit base)))

variable {t : FileTree} {explicit : Option Path} {base : Path}

/-- There is at most one way in which a file is found. -/
theorem Found.unique {found found' : Except ConfigError Layer} (h : Found t explicit base found)
    (h' : Found t explicit base found') : found = found' := by
  cases h <;> cases h' <;> grind [path]

end Config

namespace Command

end Command

end EndpointStubs
