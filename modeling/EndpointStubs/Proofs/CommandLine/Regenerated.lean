import EndpointStubs.Proofs.Clean.Undone
import EndpointStubs.Proofs.CommandLine.Alike

/-!
# Regenerated trees

The tree after the output was removed and a round was run: what is away from the roots is as it
was, and what is new lies at, below or above a root. So settings that lie apart from the roots are
found again, as they were.

    c.Regenerated t t₁ t₂ → c.FileApart t.cwd explicit → t₂.lookup p = t.lookup p, where it succeeds
-/

namespace EndpointStubs

namespace Config

open FileTree (Without SameFiles)

/-- The settings file lies neither at, below nor above a root, and the path of a named one does not
pass through a root. -/
structure FileApart (c : Config) (cwd : Location) (explicit : Option Path) : Prop where
  place : ∀ root ∈ c.roots,
    ¬root.place cwd <+: (path explicit (FileTree.pathOf cwd)).place cwd ∧
      ¬(path explicit (FileTree.pathOf cwd)).place cwd <+: root.place cwd
  way : ∀ p, explicit = some p → ∀ root ∈ c.roots, ∀ l ∈ p.way cwd, ¬root.place cwd <+: l

/-- The directories that a walk of a source passes on the way to a root have paths, as the walk
spells them, that are not too long. -/
def RootsWalkable (c : Config) (cwd : Location) (sources : List Path) : Prop :=
  ∀ s ∈ sources, ∀ root ∈ c.roots, ∀ rel, s.place cwd ++ rel <+: root.place cwd →
    s.place cwd ++ rel ≠ root.place cwd → rel.any Source.isSkipped = false →
    (Source.pathBelow s rel).text.utf8ByteSize < FileTree.maxPath

/-- From `t` the roots were removed, which gives `t₁`, and then only entries at, below or above the
roots were made, which gives `t₂`. -/
structure Regenerated (c : Config) (t t₁ t₂ : FileTree) : Prop where
  sound : t.Sound
  cwd : ∀ root ∈ c.roots, ¬root.place t.cwd <+: t.cwd
  removed : ∃ ls, t.Without ls t₁ ∧ ∀ l ∈ ls, ∃ root ∈ c.roots, l = root.place t.cwd
  within : t₁.Within t₂
  made : ∀ l e, t₁.get? l = none → t₂.get? l = some e →
    ∃ root ∈ c.roots, root.place t.cwd <+: l ∨ l <+: root.place t.cwd

variable {c : Config} {t t₁ t₂ : FileTree} {explicit : Option Path} {p : Path}

/-- Outside of the roots nothing has changed. -/
theorem Regenerated.get?_eq (h : c.Regenerated t t₁ t₂) {l : Location}
    (hl : ∀ root ∈ c.roots, ¬root.place t.cwd <+: l) : t₁.get? l = t.get? l := by
  obtain ⟨ls, hw, hls⟩ := h.removed
  refine hw.get?_of_apart fun k hk => ?_
  obtain ⟨root, hroot, rfl⟩ := hls k hk
  exact hl root hroot

theorem Regenerated.cwd_eq (h : c.Regenerated t t₁ t₂) : t₁.cwd = t.cwd := by
  obtain ⟨ls, hw, -⟩ := h.removed
  exact hw.cwd

/-- What is found away from the roots is found again. -/
theorem Regenerated.lookup (h : c.Regenerated t t₁ t₂) {y : Location × Entry}
    (hplace : ∀ root ∈ c.roots, ¬root.place t.cwd <+: p.place t.cwd)
    (hway : ∀ root ∈ c.roots, ∀ l ∈ p.way t.cwd, ¬root.place t.cwd <+: l)
    (hl : t.lookup p = .ok y) : t₂.lookup p = .ok y := by
  obtain ⟨ls, hw, -⟩ := h.removed
  obtain ⟨l, e⟩ := y
  obtain ⟨hr, he⟩ := FileTree.lookup_eq_ok_iff.1 hl
  obtain rfl := FileTree.eq_place_of_resolve hr
  refine h.within.lookup (FileTree.lookup_of_way hw.within hl ?_ ?_ ?_)
  · refine FileTree.get?_start ?_ p
    rw [h.cwd_eq, h.get?_eq h.cwd, h.sound.cwd]
  · rw [h.cwd_eq]
    intro k hk
    rw [h.get?_eq fun root hroot => hway root hroot k hk, FileTree.directory_of_mem_way hr hk]
  · rw [h.get?_eq hplace, he]
    simp

theorem components_fileName :
    (Path.mk fileName).head = .none ∧ (Path.mk fileName).components = [.normal fileName] := by
  decide +kernel

/-- The path of the usual settings file only passes the directories above it. -/
theorem of_usual_path (ht : t.Sound) :
    let p := (FileTree.pathOf t.cwd).join ⟨fileName⟩
    Path.Component.parent ∉ p.components ∧ ∀ l ∈ p.way t.cwd, l <+: t.cwd := by
  intro p
  have hp : p.components = .root :: (t.cwd ++ [fileName]).map .normal := by
    rw [Path.components_join components_fileName.1, components_fileName.2,
      FileTree.components_pathOf ht.cwd_names]
    simp
  refine ⟨by rw [hp]; simp, fun l hl => ?_⟩
  obtain ⟨a, b, hab, ha, hb, rfl⟩ := Path.mem_passed.1 hl
  rw [hp] at hab
  cases a with
  | nil => exact absurd rfl ha
  | cons x a =>
    rw [List.cons_append, List.cons.injEq] at hab
    obtain ⟨rfl, hab⟩ := hab
    obtain ⟨names, rest, hnames, rfl, rfl⟩ := List.map_eq_append_iff.1 hab
    obtain ⟨rest', n, rfl⟩ :=
      (List.eq_nil_or_concat rest).resolve_left fun h => hb (by rw [h, List.map_nil])
    rw [List.concat_eq_append, ← List.append_assoc] at hnames
    rw [Path.walk_cons, Path.walk_normal, (List.append_inj' hnames rfl).1]
    exact List.prefix_append names rest'

/-- The settings file is found in the end as it was found in the beginning. -/
theorem Regenerated.lookup_iff (h : c.Regenerated t t₁ t₂) (h₁ : t₁.Sound)
    (hapart : c.FileApart t.cwd explicit)
    (hthere : ∀ p, explicit = some p → t.pathExists p = true) (y : Location × Entry) :
    t.lookup (path explicit (FileTree.pathOf t.cwd)) = .ok y ↔
      t₂.lookup (path explicit (FileTree.pathOf t.cwd)) = .ok y := by
  have hplace := fun root hroot => (hapart.place root hroot).1
  cases explicit with
  | some p =>
    obtain ⟨l, e, hl⟩ := FileTree.pathExists_iff.1 (hthere p rfl)
    have hl₂ := h.lookup hplace (hapart.way p rfl) hl
    simp only [path, Option.getD_some] at hl₂ ⊢
    rw [hl, hl₂]
  | none =>
    obtain ⟨hdown, hway⟩ := of_usual_path h.sound
    refine ⟨fun hl => h.lookup hplace (fun root hroot l hlw hrl => ?_) hl, fun hl => ?_⟩
    · exact h.cwd root hroot (hrl.trans (hway l hlw))
    · obtain ⟨l, e⟩ := y
      obtain ⟨hr, he⟩ := FileTree.lookup_eq_ok_iff.1 hl
      have hlp := FileTree.eq_place_of_resolve hr
      rw [h.within.cwd, h.cwd_eq] at hlp
      have hold : t₁.get? l ≠ none := by
        intro hnone
        obtain ⟨root, hroot, hbelow | habove⟩ := h.made l e hnone he
        · exact hplace root hroot (hlp ▸ hbelow)
        · exact (hapart.place root hroot).2 (hlp ▸ habove)
      obtain ⟨ls, hw, -⟩ := h.removed
      exact hw.within.lookup (FileTree.lookup_of_within h₁.isTree h.within hdown hl hold)

/-! ## The steps -/

/-- After a removal the roots are free. -/
theorem Cleaned.rootsFree {u : FileTree} (h : Cleaned c t (.ok ()) u) (hu : u.Sound)
    (hdown : ∀ root ∈ c.roots, Path.Component.parent ∉ root.components)
    (hshort : ∀ root ∈ c.roots, Clean.Short t root) : c.RootsFree u := by
  obtain ⟨hw, hfree⟩ := h.free
  refine ⟨hdown, fun root hroot => by rw [hw.cwd]; exact hfree root hroot,
    fun root hroot hd => ?_⟩
  have hs : Clean.Short u root := by
    rw [Clean.Short, hw.cwd]
    exact hshort root hroot
  have hreached := Clean.reached?_of_directory hu (hdown root hroot) hs hd
  obtain ⟨e, he⟩ := Clean.reached?_eq_some_iff.1 hreached
  have hgone := hfree root hroot
  rw [← hw.cwd, FileTree.pathExists_iff.2 ⟨_, e, he⟩] at hgone
  cases hgone

/-- Nothing that is removed holds the working directory. -/
theorem Cleaned.not_above_cwd {u : FileTree} (h : Cleaned c t (.ok ()) u) (ht : t.Sound)
    (hdown : ∀ root ∈ c.roots, Path.Component.parent ∉ root.components)
    (hshort : ∀ root ∈ c.roots, Clean.Short t root) :
    ∀ root ∈ c.roots, ¬root.place t.cwd <+: t.cwd := by
  intro root hroot hcwd
  have hreached := Clean.reached?_of_directory ht (hdown root hroot) (hshort root hroot)
    (ht.get?_of_isPrefix_cwd hcwd)
  have := (h.of_holds (List.mem_filterMap.2 ⟨root, hroot, hreached⟩) hcwd).1
  cases this

/-- A removal and a round make a regenerated tree. -/
theorem regenerated {p : Processor} {m : EndpointModel} {k : Nat}
    (hp : p.emitter = .ofRoots c.generatedRoot c.counterpartRoot c.extension) (ht : t.Sound)
    (hc : Cleaned c t (.ok ()) t₁) (ht₁ : t₁.Sound)
    (hdown : ∀ root ∈ c.roots, Path.Component.parent ∉ root.components)
    (hshort : ∀ root ∈ c.roots, Clean.Short t root)
    (hw : t₁.Within t₂) (ht₂ : t₂.Sound) (hm : p.Made m t₁ t₂ k) : c.Regenerated t t₁ t₂ := by
  have hwithout := hc.free.1
  refine ⟨ht, hc.not_above_cwd ht hdown hshort, ⟨_, hwithout, fun l hl => ?_⟩, hw, ?_⟩
  · obtain ⟨root, hroot, hreached⟩ := List.mem_filterMap.1 hl
    exact ⟨root, hroot, Clean.eq_place_of_reached? ht hreached⟩
  · intro l e hold he
    rw [← hwithout.cwd]
    rcases below_or_above hp (hc.rootsFree ht₁ hdown hshort) ht₁ ht₂ hm hold he with
      ⟨root, hroot, hbelow, -⟩ | ⟨-, root, hroot, habove, -⟩
    · exact ⟨root, hroot, .inl hbelow⟩
    · exact ⟨root, hroot, .inr habove⟩

/-- After a round on free roots, removing the output leaves the files there were, and free roots. -/
theorem RootsFree.clean_again {p : Processor} {m : EndpointModel} {k : Nat}
    (hp : p.emitter = .ofRoots c.generatedRoot c.counterpartRoot c.extension)
    (hfree : c.RootsFree t₁) (ht₁ : t₁.Sound) (ht₂ : t₂.Sound) (hw : t₁.Within t₂)
    (hm : p.Made m t₁ t₂ k) (hshort : ∀ root ∈ c.roots, Clean.Short t₁ root)
    (hbase : (FileTree.pathOf t₁.cwd).text.utf8ByteSize < FileTree.maxPath) {x : World}
    (hx : x.tree = t₂) :
    ∃ y, c.clean.runOn x = (.ok (), y) ∧ t₁.SameFiles y.tree ∧ c.RootsFree y.tree ∧
      y.tree.Within t₂ := by
  have hc := cleaned_clean c x
  have hy := Clean.sound_clean c (w := x) (hx ▸ ht₂)
  generalize hr : c.clean.runOn x = r at hc hy
  obtain ⟨result, y⟩ := r
  rw [hx] at hc
  have hremovable := removable_of_short hp hfree ht₁ ht₂ hm hshort
  obtain ⟨hok, hrestored⟩ := hc.restored hp hfree ht₁ ht₂ hw hm hbase hremovable
  obtain rfl : result = .ok () := hok
  have hshort₂ : ∀ root ∈ c.roots, Clean.Short t₂ root := fun root hroot => by
    rw [Clean.Short, hw.cwd]
    exact hshort root hroot
  exact ⟨y, rfl, ⟨ht₁, hy, hrestored.within, hrestored.files⟩,
    hc.rootsFree hy hfree.down hshort₂, hc.free.1.within⟩

/-- The directories that are found in addition, with free roots, are above the roots: a walk can open
them. -/
theorem RootsFree.opens {x : FileTree} (hx : c.RootsFree x) (h : t₁.SameFiles x)
    (hregen : c.Regenerated t t₁ t₂) (hpart : x.Within t₂) {sources : List Path}
    (hwalk : c.RootsWalkable t.cwd sources) : ∀ s ∈ sources, Source.Opens t₁ x s := by
  intro s hs l rel hl hd hnone hskip
  obtain ⟨hr, -⟩ := FileTree.lookup_eq_ok_iff.1 hl
  have hplace : l = s.place t.cwd := by rw [FileTree.eq_place_of_resolve hr, hregen.cwd_eq]
  have hxcwd : x.cwd = t.cwd := h.within.cwd.trans hregen.cwd_eq
  obtain ⟨root, hroot, hside⟩ := hregen.made _ _ hnone (hpart.keeps _ _ hd)
  have hbare := hx.bare root hroot
  rw [hxcwd] at hbare
  have hne : l ++ rel ≠ root.place t.cwd := fun he => hbare (he ▸ hd)
  have habove : l ++ rel <+: root.place t.cwd := by
    refine hside.resolve_left fun hbelow => hbare ?_
    exact h.new.directory_of_isPrefix hd hbelow hne.symm
  rw [Source.checkText_pathBelow (FileTree.resolve_eq_ok_iff.1 hr).1 fun n hn =>
    h.new.names _ _ hd n (List.mem_append_right _ hn)]
  subst hplace
  rw [if_pos (hwalk s hs root hroot rel habove hne hskip)]

/-- A root that is found although it is free was found before, or it would be a directory. -/
theorem RootsFree.lookup_root {x : FileTree} (hx : c.RootsFree x) (h : t.SameFiles x) {root : Path}
    (hroot : root ∈ c.roots) {y : Location × Entry} (hl : x.lookup root = .ok y) :
    t.lookup root = .ok y := by
  obtain ⟨l, e⟩ := y
  obtain ⟨hr, he⟩ := FileTree.lookup_eq_ok_iff.1 hl
  refine FileTree.lookup_of_within h.old.isTree h.within (hx.down root hroot) hl fun hold => ?_
  cases e with
  | file b =>
    rw [h.files l b he] at hold
    cases hold
  | directory =>
    rw [FileTree.eq_place_of_resolve hr] at he
    exact hx.bare root hroot he

end Config

end EndpointStubs
