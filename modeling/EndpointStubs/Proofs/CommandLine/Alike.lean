import EndpointStubs.CommandLine.Run
import EndpointStubs.Proofs.Round.Settings
import EndpointStubs.Proofs.Source.Alike

/-!
# Commands that read alike

What a command reads before it writes: settings, the round, templates. The settings are the same
in two trees in which the settings file is found alike; the rest is the same in a tree that has
grown by directories only, as long as the roots do not become the same directory.

    (t.lookup p = .ok y ↔ x.lookup p = .ok y) → Config.load t p = Config.load x p
    t.SameFiles x → Processor.ofConfig c, run on t, gives p → it gives p on x
-/

namespace EndpointStubs

open FileTree (SameFiles)
open Session (Echoes)

variable {t x : FileTree}

/-! ## Templates -/

namespace Overrides

theorem components_overrideFile (kind : ArtifactKind) :
    (Path.mk kind.overrideFile).head = .none ∧
      (Path.mk kind.overrideFile).components = [.normal kind.overrideFile] := by
  cases kind <;> decide +kernel

/-- The files of a directory that is there are the same. -/
theorem isFile_eq (h : t.SameFiles x) {dir : Path} (hdir : t.isDirectory dir = true)
    (kind : ArtifactKind) :
    x.isFile (dir.join ⟨kind.overrideFile⟩) = t.isFile (dir.join ⟨kind.overrideFile⟩) := by
  obtain ⟨d, hd⟩ := FileTree.isDirectory_iff.1 hdir
  obtain ⟨hr, hdd⟩ := FileTree.lookup_eq_ok_iff.1 hd
  obtain ⟨hhead, hcomp⟩ := components_overrideFile kind
  generalize hp : dir.join ⟨kind.overrideFile⟩ = p
  have hpc : p.components = dir.components ++ [.normal kind.overrideFile] := by
    rw [← hp, Path.components_join hhead, hcomp]
  have hway : ∀ k ∈ p.way t.cwd, t.get? k = some .directory := by
    intro k hk
    obtain ⟨a, b, hab, ha, hb, rfl⟩ := Path.mem_passed.1 hk
    obtain ⟨b', n, hbn⟩ := (List.eq_nil_or_concat b).resolve_left hb
    rw [hpc, hbn, List.concat_eq_append, ← List.append_assoc] at hab
    have hdir := (List.append_inj' hab rfl).1
    by_cases hb' : b' = []
    · rw [hb', List.append_nil] at hdir
      rw [← hdir, ← hdd, FileTree.eq_place_of_resolve hr]
      rfl
    · exact FileTree.directory_of_mem_way hr (Path.mem_passed.2 ⟨a, b', hdir, ha, hb', rfl⟩)
  have hfound : ∀ l b, x.lookup p = .ok (l, .file b) ↔ t.lookup p = .ok (l, .file b) := by
    refine fun l b => ⟨fun hl => ?_, fun hl => h.within.lookup hl⟩
    refine FileTree.lookup_of_way h.within hl (FileTree.get?_start h.old.cwd p) hway ?_
    rw [h.files l b (FileTree.lookup_eq_ok_iff.1 hl).2]
    simp
  have hiff : ∀ u : FileTree, u.isFile p = true ↔ ∃ l b, u.lookup p = .ok (l, .file b) := by
    intro u
    unfold FileTree.isFile
    split <;> simp_all
  rw [Bool.eq_iff_iff, hiff, hiff]
  simp only [hfound]

theorem echoes_load (h : t.SameFiles x) (dir : Path) : Echoes t x (load dir) (load dir) := by
  refine Session.echoes_tree ?_
  by_cases hdir : t.isDirectory dir = true
  · have hx : x.isDirectory dir = true := by
      obtain ⟨l, hl⟩ := FileTree.isDirectory_iff.1 hdir
      exact FileTree.isDirectory_iff.2 ⟨l, h.within.lookup hl⟩
    simp only [hdir, hx, Bool.not_true, Bool.false_eq_true, if_false]
    refine Session.echoes_foldlM (fun o kind => Session.echoes_tree ?_) _ _
    rw [isFile_eq h hdir kind]
    split
    · exact (Session.echoes_report _ _).bind fun _ => Session.echoes_pure o
    · refine (Session.echoes_ask fun s hs => h.readText hs).bind fun text => ?_
      split
      · exact Session.echoes_throw _ _
      · exact (Session.echoes_report _ _).bind fun _ => Session.echoes_pure _
  · simp only [hdir, Bool.not_false, if_true]
    exact Session.echoes_throw _ _

end Overrides

/-! ## Processors -/

/-- The processor of settings is the same as long as each root that is found was found before. -/
theorem Processor.echoes_ofConfig (h : t.SameFiles x) {c : Config}
    (hroots : ∀ root ∈ c.roots, ∀ y, x.lookup root = .ok y → t.lookup root = .ok y) :
    Echoes t x (ofConfig c) (ofConfig c) := by
  have hcanon : ∀ root ∈ c.roots, ∀ q, x.canonicalize root = .ok q → t.canonicalize root = .ok q := by
    intro root hroot q hq
    unfold FileTree.canonicalize at hq ⊢
    cases hl : x.lookup root with
    | error f =>
      rw [hl] at hq
      cases hq
    | ok y =>
      rw [hroots root hroot y hl]
      rw [hl] at hq
      exact hq
  have hsame : sameDirectory t c.generatedRoot c.counterpartRoot = false →
      sameDirectory x c.generatedRoot c.counterpartRoot = false := by
    unfold sameDirectory
    simp only [Bool.or_eq_false_iff]
    refine And.imp_right fun ht => ?_
    cases hg : x.canonicalize c.generatedRoot with
    | error f => rfl
    | ok g =>
      cases hc : x.canonicalize c.counterpartRoot with
      | error f => rfl
      | ok q =>
        rw [hcanon _ (by simp [Config.roots]) g hg, hcanon _ (by simp [Config.roots]) q hc] at ht
        exact ht
  refine Session.echoes_tree ?_
  by_cases ht : sameDirectory t c.generatedRoot c.counterpartRoot = true
  · rw [if_pos ht]
    exact Session.echoes_throw _ _
  · rw [Bool.not_eq_true] at ht
    simp only [ht, hsame ht, Bool.false_eq_true, if_false]
    cases c.templates with
    | none => exact (Session.echoes_pure _).bind fun o => Session.echoes_pure _
    | some dir =>
      exact ((Overrides.echoes_load h dir).mapError _).bind fun o => Session.echoes_pure _

/-! ## Settings -/

namespace Config

section

variable {p : Path} (hp : ∀ y, t.lookup p = .ok y ↔ x.lookup p = .ok y)

include hp

theorem pathExists_eq : x.pathExists p = t.pathExists p := by
  rw [Bool.eq_iff_iff, FileTree.pathExists_iff, FileTree.pathExists_iff]
  simp only [hp]

theorem load_eq : load x p = load t p := by
  unfold load
  rw [pathExists_eq hp]
  split
  · rename_i hex
    obtain ⟨l, e, hl⟩ := FileTree.pathExists_iff.1 hex
    unfold FileTree.readText
    rw [hl, (hp _).1 hl]
  · rfl

end

/-- The path at which settings are looked for. -/
def path (explicit : Option Path) (base : Path) : Path := explicit.getD (base.join ⟨fileName⟩)

/-- Two trees that answer alike at the path choose the same settings file. -/
theorem resolve_eq {explicit : Option Path} {base : Path}
    (hp : ∀ y, t.lookup (path explicit base) = .ok y ↔ x.lookup (path explicit base) = .ok y) :
    resolve x explicit base = resolve t explicit base := by
  have hex := pathExists_eq hp
  unfold resolve
  cases explicit with
  | some p =>
    simp only [path, Option.getD_some] at hex
    simp only [hex]
  | none =>
    simp only [path, Option.getD_none] at hex
    simp only [hex]

/-- Two trees that answer alike at the path give the same settings. -/
theorem effective_eq {explicit : Option Path} {base : Path} (env : Environment)
    (hp : ∀ y, t.lookup (path explicit base) = .ok y ↔ x.lookup (path explicit base) = .ok y) :
    effective x explicit base env = effective t explicit base env := by
  have hfile : ∀ p, resolve t explicit base = .ok (some p) → p = path explicit base := by
    intro p hr
    unfold resolve at hr
    cases explicit with
    | some q =>
      simp only at hr
      split at hr
      · exact (Option.some.inj (Except.ok.inj hr)).symm
      · cases hr
    | none =>
      simp only [Except.ok.injEq] at hr
      split at hr
      · exact (Option.some.inj hr).symm
      · cases hr
  unfold effective fromFile
  rw [resolve_eq hp]
  cases hr : resolve t explicit base with
  | error e => rfl
  | ok r =>
    cases r with
    | none => rfl
    | some p =>
      obtain rfl := hfile p hr
      simp only [bind, Except.bind, load_eq hp]

theorem echoes_loadEffective {explicit : Option Path} {base : Path} (env : Environment)
    (hp : ∀ y, t.lookup (path explicit base) = .ok y ↔ x.lookup (path explicit base) = .ok y) :
    Echoes t x (loadEffective explicit base env) (loadEffective explicit base env) := by
  refine Session.echoes_tree ?_
  rw [resolve_eq hp, effective_eq env hp]
  have hrest : Echoes t x
      (do
        let c ← Session.ofExcept id (effective t explicit base env)
        Session.reportAll (environmentReports env)
        return c)
      (do
        let c ← Session.ofExcept id (effective t explicit base env)
        Session.reportAll (environmentReports env)
        return c) := by
    refine (Session.echoes_ofExcept fun c hc => hc).bind fun c => ?_
    exact (Session.echoes_reportAll _ _).bind fun _ => Session.echoes_pure _
  simp only
  split
  · exact (Session.echoes_report _ _).bind fun _ => hrest
  · exact hrest

end Config

namespace Command

/-- Settings are the same in two trees that answer alike at the settings path. -/
theorem echoes_settings (c : Command) (env : Environment) (hcwd : x.cwd = t.cwd)
    (hp : ∀ y, t.lookup (Config.path c.options.config (FileTree.pathOf t.cwd)) = .ok y ↔
      x.lookup (Config.path c.options.config (FileTree.pathOf t.cwd)) = .ok y) :
    Echoes t x (c.settings env) (c.settings env) := by
  refine Session.echoes_tree ?_
  rw [hcwd]
  exact ((Config.echoes_loadEffective env hp).mapError _).bind fun _ => Session.echoes_pure _

/-- With more directories, a round that is collected is collected again. -/
theorem echoes_collect (h : t.SameFiles x) {c : Command}
    (hopens : ∀ p ∈ c.options.sources, Source.Opens t x p) (config : Config) :
    Echoes t x (c.collect config) (c.collect config) := by
  unfold collect
  split
  · exact Session.echoes_throw _ _
  · exact (Origins.echoes_collect h hopens).mapError _

end Command

end EndpointStubs
