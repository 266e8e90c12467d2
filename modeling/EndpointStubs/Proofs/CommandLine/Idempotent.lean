import EndpointStubs.CommandLine.Program
import EndpointStubs.Proofs.CommandLine.Regenerated
import EndpointStubs.Proofs.Round.Again

/-!
# Generating twice

Generating after removing the output can be repeated: the second run finds the same settings,
removes what the first one has made, reads the same declarations and makes the same files again.
Only directories above the roots are left in between, and they change nothing.

    t --clean--> t₁ --round--> t₂ --clean--> t₃ --round--> t₂           t₁.SameFiles t₃
-/

namespace EndpointStubs

/-! ## The command -/

namespace Command

variable {c : Command} {config : Config} {env : Environment}

/-- The steps of generating after removing the output. -/
theorem generate_eq_ok_iff {c : Command} (hclean : c.options.clean = true) {env : Environment}
    {w w' : World} {out : Printout} :
    (c.generate env).runOn w = (.ok out, w') ↔
      ∃ config w₁, (c.settings env).runOn w = (.ok config, w₁) ∧
      ∃ w₂, config.clean.runOn w₁ = (.ok (), w₂) ∧
      ∃ round w₃, (c.collect config).runOn w₂ = (.ok round, w₃) ∧
      ∃ p w₄, (Processor.ofConfig config).runOn w₃ = (.ok p, w₄) ∧
      ∃ report, (p.processRound round).runOn w₄ = (.ok report, w') ∧
        out = { result := Printout.lines (reportLines report) } := by
  unfold generate
  simp only [hclean, if_true, Session.runOn_bind_eq_ok_iff, Session.runOn_mapError_eq_ok_iff,
    Session.runOn_pure, Prod.mk.injEq, Except.ok.injEq]
  constructor
  · rintro ⟨config, w₁, hs, _, w₂, hc, round, w₃, hr, p, w₄, hp, report, w₅, hg, rfl, rfl⟩
    exact ⟨config, w₁, hs, w₂, hc, round, w₃, hr, p, w₄, hp, report, hg, rfl⟩
  · rintro ⟨config, w₁, hs, w₂, hc, round, w₃, hr, p, w₄, hp, report, hg, rfl⟩
    exact ⟨config, w₁, hs, (), w₂, hc, round, w₃, hr, p, w₄, hp, report, w', hg, rfl, rfl⟩

/-- Settings are only there if a named file is. -/
theorem pathExists_of_settings {w w' : World}
    (h : (c.settings env).runOn w = (.ok config, w')) :
    ∀ p, c.options.config = some p → w.tree.pathExists p = true := by
  intro p hp
  unfold settings at h
  rw [Session.runOn_bind, Session.runOn_tree] at h
  simp only [Session.runOn_bind_eq_ok_iff, Session.runOn_mapError_eq_ok_iff] at h
  obtain ⟨config', w₁, hload, -⟩ := h
  unfold Config.loadEffective at hload
  rw [Session.runOn_bind, Session.runOn_tree] at hload
  simp only at hload
  rw [← Bool.not_eq_false]
  intro hnone
  have hresolve : Config.resolve w.tree c.options.config (FileTree.pathOf w.tree.cwd) =
      .error (.notFound p) := by
    unfold Config.resolve
    rw [hp]
    simp [hnone]
  have heffective : Config.effective w.tree c.options.config (FileTree.pathOf w.tree.cwd) env =
      .error (.notFound p) := by
    unfold Config.effective Config.fromFile
    rw [hresolve]
    rfl
  rw [hresolve, heffective] at hload
  cases hload

/-- A generation that has succeeded succeeds again, with the same result, and leaves the same
tree. -/
theorem generate_again (hclean : c.options.clean = true) {w w₁ w' : World} {out : Printout}
    (ht : w.tree.Sound) (hs : (c.settings env).runOn w = (.ok config, w₁))
    (hdown : ∀ root ∈ config.roots, Path.Component.parent ∉ root.components)
    (hshort : ∀ root ∈ config.roots, Clean.Short w.tree root)
    (hwalk : config.RootsWalkable w.tree.cwd c.options.sources)
    (hapart : config.FileApart w.tree.cwd c.options.config)
    (h : (c.generate env).runOn w = (.ok out, w')) {x : World} (hx : x.tree = w'.tree) :
    ∃ x', (c.generate env).runOn x = (.ok out, x') ∧ x'.tree.cwd = w'.tree.cwd ∧
      ∀ l, x'.tree.get? l = w'.tree.get? l := by
  obtain ⟨config', w₁', hs', w₂, hc, round, w₃, hr, p, w₄, hp, report, hg, rfl⟩ :=
    (generate_eq_ok_iff hclean).1 h
  rw [hs] at hs'
  obtain ⟨hconfig, rfl⟩ := Prod.mk.inj hs'
  obtain rfl := Except.ok.inj hconfig
  have hs₁ : w₁.tree = w.tree := (echoes_settings c env rfl (fun _ => .rfl) w w₁ config rfl hs).1
  -- The first run: `t` is cleaned to `t₁`, and the round takes it to `t₂`.
  have hcleaned : config.Cleaned w.tree (.ok ()) w₂.tree := by
    have := Config.cleaned_clean config w₁
    rwa [hc, hs₁] at this
  have ht₁ : w₂.tree.Sound := by
    have := Clean.sound_clean config (hs₁ ▸ ht)
    rwa [hc] at this
  have hfree := hcleaned.rootsFree ht₁ hdown hshort
  have hcwd : w₂.tree.cwd = w.tree.cwd := hcleaned.free.1.cwd
  have hrefl : w₂.tree.SameFiles w₂.tree := ⟨ht₁, ht₁, .refl _, fun _ _ h => h⟩
  have hr₃ : w₃.tree = w₂.tree := (echoes_collect hrefl (fun p _ => Source.opens_refl _ p) config w₂ w₃
    round rfl hr).1
  obtain ⟨hpe, -, hp₄, -⟩ := Processor.of_runOn_ofConfig hp
  have hround := Processor.processed_processRound hpe round w₄
  have ht₂ : w'.tree.Sound := by
    have := p.sound_processRound round (w := w₄) (by rwa [hp₄, hr₃])
    rwa [hg] at this
  rw [hg, hp₄, hr₃] at hround
  obtain ⟨k, hm, -, -⟩ := hround.exists_made
  have hwithin := hround.within
  -- The second run: the settings are those of the first one.
  have hregen := Config.regenerated hpe ht hcleaned ht₁ hdown hshort hwithin ht₂ hm
  have hlookup := hregen.lookup_iff ht₁ hapart (pathExists_of_settings hs)
  obtain ⟨x₁, hsx, hx₁⟩ := (echoes_settings c env (hwithin.cwd.trans hcwd) hlookup w w₁ config
    rfl hs).2 x hx
  -- Removing the output takes `t₂` to `t₃`, which is `t₁` with more directories.
  obtain ⟨x₂, hcx, hsame, hfree₂, hpart⟩ := hfree.clean_again hpe ht₁ ht₂ hwithin hm
    (by simpa only [Clean.Short, hcwd] using hshort) (hcwd ▸ hcleaned.base_short) hx₁
  -- The same declarations are read, and the same processor is made.
  have hopens := hfree₂.opens hsame hregen hpart hwalk
  obtain ⟨x₃, hrx, hx₃⟩ := (echoes_collect hsame hopens config w₂ w₃ round rfl hr).2 x₂ rfl
  obtain ⟨x₄, hpx, hx₄⟩ := (Processor.echoes_ofConfig hsame
    (fun root hroot y hy => hfree₂.lookup_root hsame hroot hy) w₃ w₄ p hr₃ hp).2 x₃ hx₃
  -- The round makes up for what was removed.
  have hbetween : Between w₄.tree x₄.tree w'.tree w'.tree := by
    rw [hp₄, hr₃, hx₄]
    exact ⟨hsame.within, hpart, fun l b hl => .inl (hsame.files l b hl), hsame.new.cwd⟩
  obtain ⟨x', hgx, hx'⟩ := (Processor.repeats_processRound (.refl _) hpe hdown round).replays w₄ w'
    report hg (.refl _) x₄ hbetween
  refine ⟨x', (generate_eq_ok_iff hclean).2 ?_, hx'.left.cwd, hx'.get?_eq⟩
  exact ⟨config, x₁, hsx, x₂, hcx, round, x₃, hrx, p, x₄, hpx, report, hgx, rfl⟩

end Command

/-! ## The program -/

/-- Generating after removing the output is idempotent. If the program succeeds, then run again
on what it has left it succeeds, prints the same, and leaves the same tree, as long as the roots do
not go up, their paths from the working directory are not too long, nor are those on which a walk of
a source comes to them, and the settings file and the way to it lie apart from them. -/
theorem Program.generate_clean_idempotent {args : List String} {env : Environment} {t : FileTree}
    {c : Command} {config : Config} (hargs : Command.ofArguments args = .ok c)
    (hname : c.name = .generate) (hclean : c.options.clean = true) (ht : t.Sound)
    (hsettings : ((c.settings env).runOn { tree := t }).1 = .ok config)
    (hdown : ∀ root ∈ config.roots, Path.Component.parent ∉ root.components)
    (hshort : ∀ root ∈ config.roots, Clean.Short t root)
    (hwalk : config.RootsWalkable t.cwd c.options.sources)
    (hapart : config.FileApart t.cwd c.options.config) (hok : (run args env t).exitCode = 0) :
    let first := run args env t
    let second := run args env first.tree
    second.exitCode = 0 ∧ second.output = first.output ∧ second.tree.cwd = first.tree.cwd ∧
      ∀ l, second.tree.get? l = first.tree.get? l := by
  have hrun : ∀ u, run args env u = .ofCommand env ((c.generate env).runOn { tree := u }) := by
    intro u
    unfold run Command.run
    rw [hargs]
    simp only [hname]
  intro first second
  have hfirst : first = .ofCommand env ((c.generate env).runOn { tree := t }) := hrun t
  have hsecond : second = .ofCommand env ((c.generate env).runOn { tree := first.tree }) :=
    hrun first.tree
  change first.exitCode = 0 at hok
  generalize hg : (c.generate env).runOn { tree := t } = r at hfirst
  obtain ⟨e | out, w'⟩ := r
  · rw [hfirst] at hok
    cases hok
  · generalize hs : (c.settings env).runOn { tree := t } = rs at hsettings
    obtain ⟨rs, w₁⟩ := rs
    obtain rfl : rs = .ok config := hsettings
    have hx : first.tree = w'.tree := by rw [hfirst]; rfl
    obtain ⟨x', hgx, hcwd, hget⟩ := Command.generate_again hclean (w := { tree := t }) ht hs hdown
      hshort hwalk hapart hg (x := { tree := first.tree }) hx
    rw [hgx] at hsecond
    rw [hsecond, hx]
    refine ⟨rfl, ?_, hcwd, hget⟩
    rw [hfirst]
    rfl

/-- Both roots are below the sources that are scanned, and one holds old output. -/
theorem Program.generate_clean_idempotent_scanned :
    let args := ["generate", "--clean", "--src", ".", "--generated-root", "o",
      "--mirror-root", "o/./m"]
    let t : FileTree := ⟨[(["w"], .directory), (["w", "o"], .directory),
      (["w", "o", "old.rs"], .file "".toUTF8),
      (["w", "a.rs"], .file "#[rest_controller] struct A;".toUTF8)], ["w"]⟩
    let first := run args [] t
    let second := run args [] first.tree
    first.exitCode = 0 ∧ second.exitCode = 0 ∧ second.output = first.output ∧
      second.tree.cwd = first.tree.cwd ∧ ∀ l, second.tree.get? l = first.tree.get? l := by
  intro args t
  let c : Command := ⟨.generate, {
    sources := [⟨"."⟩]
    flags := { generatedRoot := some ⟨"o"⟩, counterpartRoot := some ⟨"o/./m"⟩ }
    clean := true }⟩
  let config : Config := { generatedRoot := ⟨"o"⟩, counterpartRoot := ⟨"o/./m"⟩ }
  have hargs : Command.ofArguments args = .ok c := by decide +kernel
  have ht : t.Sound := by decide +kernel
  have hsettings : ((c.settings []).runOn { tree := t }).1 = .ok config := by decide +kernel
  have hdown : ∀ root ∈ config.roots, Path.Component.parent ∉ root.components := by
    decide +kernel
  have hshort : ∀ root ∈ config.roots, Clean.Short t root := by decide +kernel
  have hplaces : ∀ root ∈ config.roots,
      root.place t.cwd = ["w", "o"] ∨ root.place t.cwd = ["w", "o", "m"] := by
    decide +kernel
  have hsource : Path.place t.cwd ⟨"."⟩ = ["w"] := by decide +kernel
  have hwalk : config.RootsWalkable t.cwd [⟨"."⟩] := by
    intro s hs root hroot rel habove hne _
    obtain rfl := List.mem_singleton.1 hs
    rw [hsource, List.singleton_append] at habove hne
    have hrel : rel = [] ∨ rel = ["o"] := by
      rcases hplaces root hroot with h | h <;> rw [h] at habove hne <;>
        simp only [List.prefix_cons_iff, List.prefix_nil] at habove <;> grind
    rcases hrel with rfl | rfl <;> decide +kernel
  have hplace : ∀ root ∈ config.roots,
      ¬root.place t.cwd <+: (Config.path none (FileTree.pathOf t.cwd)).place t.cwd ∧
        ¬(Config.path none (FileTree.pathOf t.cwd)).place t.cwd <+: root.place t.cwd := by
    decide +kernel
  have hok : (run args [] t).exitCode = 0 := by decide +kernel
  have hapart : config.FileApart t.cwd none := ⟨hplace, nofun⟩
  exact ⟨hok, generate_clean_idempotent hargs rfl rfl ht hsettings hdown hshort hwalk hapart hok⟩

/-- Where the path of the settings file passes through a root, which is removed and not made again,
the file is not found a second time. -/
theorem Program.generate_clean_through_root :
    let args := ["generate", "--clean", "--src", "a.rs", "--generated-root", "o",
      "--mirror-root", "m", "--config", "o/../stubgen.toml"]
    let t : FileTree := ⟨[(["w"], .directory), (["w", "a.rs"], .file "".toUTF8),
      (["w", "o"], .directory), (["w", "stubgen.toml"], .file "".toUTF8)], ["w"]⟩
    let file : Path := ⟨"o/../stubgen.toml"⟩
    ∃ c config, Command.ofArguments args = .ok c ∧ c.name = .generate ∧ c.options.clean = true ∧
      c.options.config = some file ∧ t.Sound ∧
      ((c.settings []).runOn { tree := t }).1 = .ok config ∧
      (∀ root ∈ config.roots, Path.Component.parent ∉ root.components ∧
        Clean.Short t root ∧ ¬root.place t.cwd <+: file.place t.cwd ∧ ¬file.place t.cwd <+: root.place t.cwd) ∧
      (run args [] t).exitCode = 0 ∧ (run args [] (run args [] t).tree).exitCode = 1 := by
  intro args t file
  let c : Command := ⟨.generate, {
    sources := [⟨"a.rs"⟩]
    config := some file
    flags := { generatedRoot := some ⟨"o"⟩, counterpartRoot := some ⟨"m"⟩ }
    clean := true }⟩
  let config : Config := { generatedRoot := ⟨"o"⟩, counterpartRoot := ⟨"m"⟩ }
  let t' : FileTree := ⟨[(["w"], .directory), (["w", "a.rs"], .file "".toUTF8),
    (["w", "stubgen.toml"], .file "".toUTF8)], ["w"]⟩
  have hargs : Command.ofArguments args = .ok c := by decide +kernel
  have hs : (c.settings []).runOn { tree := t } = (.ok config, ⟨t, [Config.loading file]⟩) := by
    decide +kernel
  have hfirst : (run args [] t).exitCode = 0 ∧ (run args [] t).tree = t' := by
    have hrun : run args [] t = .ofCommand [] ((c.generate []).runOn { tree := t }) := by
      unfold run
      rw [hargs]
      rfl
    -- With the settings at hand, the rest is computed only once.
    rw [hrun, Command.generate, Session.runOn_bind, hs]
    decide +kernel
  refine ⟨c, config, hargs, rfl, rfl, rfl, by decide +kernel, by rw [hs], by decide +kernel,
    hfirst.1, ?_⟩
  rw [hfirst.2]
  decide +kernel

end EndpointStubs
