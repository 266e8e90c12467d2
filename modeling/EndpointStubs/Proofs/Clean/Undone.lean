import EndpointStubs.Proofs.Clean.Overlooked
import EndpointStubs.Proofs.Round.Kept
import EndpointStubs.Proofs.Round.NewFiles
import EndpointStubs.Proofs.Round.Places
import EndpointStubs.Proofs.Round.Room
import EndpointStubs.Proofs.Round.Settings

/-!
# Undone rounds

Whatever a round has made lies at or below its roots, or is a directory above one of them. A root
with something new below it is a directory, which is reached from the working directory if its path
is not too long; so removing the output takes back all that the round has made but the directories
above the roots. A root that has become a file lies below the generated root, which is removed
before it. What was made through a root whose path is too long stays.

    c.clean, run after a round on t, gives u → c.Restored t u ↔ what is new can be removed
    the paths of both roots are not too long → what is new can be removed
-/

namespace EndpointStubs

open Processor (Made)

namespace Config

/-- `u` is `t` with at most some more directories, each properly above a root. -/
structure Restored (c : Config) (t u : FileTree) : Prop where
  within : t.Within u
  files : ∀ l b, u.get? l = some (.file b) → t.get? l = some (.file b)
  directories : ∀ l, u.get? l = some .directory → t.get? l = some .directory ∨
    ∃ root ∈ c.roots, l <+: root.place t.cwd ∧ l ≠ root.place t.cwd

/-- What is new in `u` is in a root whose path is not too long, or is a directory properly above a
root. -/
def Removable (c : Config) (t u : FileTree) : Prop :=
  ∀ l e, t.get? l = none → u.get? l = some e →
    (∃ root ∈ c.roots, Clean.Short t root ∧ root.place t.cwd <+: l ∧
        u.get? (root.place t.cwd) = some .directory) ∨
      e = .directory ∧ ∃ root ∈ c.roots, l <+: root.place t.cwd ∧ l ≠ root.place t.cwd

variable {c : Config} {t u v : FileTree} {root : Path} {l : Location} {p : Processor}
  {m : EndpointModel} {k : Nat}

/-! ## Where a round makes entries -/

section

variable (hp : p.emitter = .ofRoots c.generatedRoot c.counterpartRoot c.extension)

include hp

/-- Each file of a round lies properly below one of the roots. -/
theorem below_root {x : ArtifactKind × Path} (hx : x ∈ p.files m) (cwd : Location) :
    ∃ root ∈ c.roots, ∃ names : List String, names ≠ [] ∧
      x.2.components = root.components ++ names.map .normal ∧
      x.2.place cwd = root.place cwd ++ names := by
  obtain ⟨root, hroot, names, hne, -, hcomp⟩ := Processor.below_of_mem_files hp hx
  refine ⟨root, hroot, names, hne, hcomp, ?_⟩
  rw [Path.place, hcomp, Path.walk_append, Path.walk_normal]
  rfl

/-- The first file of a round is below the generated root. -/
theorem exists_first_below {x : ArtifactKind × Path} (hx : x ∈ (p.files m).take k)
    (cwd : Location) :
    ∃ y ∈ (p.files m).take k, ∃ names : List String, names ≠ [] ∧
      y.2.place cwd = c.generatedRoot.place cwd ++ names := by
  have hmem := List.mem_of_mem_take hx
  cases ha : p.emitter.targets (ArtifactKind.stubBase.nameIn m) with
  | error err =>
    have hbase : p.filesFor m .stubBase = [] := Processor.filesFor_of_error ha
    have hstub : p.filesFor m .stub = [] :=
      (List.pairwise_cons.1 (Processor.downward_all hp m)).1 .stub (by simp) hbase
    simp [Processor.files, ArtifactKind.all, hbase, hstub] at hmem
  | ok a =>
    have hfiles : p.files m = (.stubBase, a.canonical) :: (.stubBase, a.counterpart) ::
        [ArtifactKind.stub].flatMap (p.filesFor m) := Processor.flatMap_filesFor ha
    rw [hp] at ha
    refine ⟨(.stubBase, a.canonical), ?_, _, Layout.names_ne_nil _ _,
      (Emitter.place_of_targets cwd ha).1⟩
    cases k with
    | zero => simp at hx
    | succ k =>
      rw [hfiles, List.take_succ_cons]
      exact List.mem_cons_self

/-- What a round has made is below a root that is now a directory, or above a root. -/
theorem below_or_above (hroots : c.RootsFree t) (ht : t.Sound) (hu : u.Sound)
    (hm : p.Made m t u k) {e : Entry} (hold : t.get? l = none) (he : u.get? l = some e) :
    (∃ root ∈ c.roots, root.place t.cwd <+: l ∧
        u.get? (root.place t.cwd) = some .directory) ∨
      e = .directory ∧ ∃ root ∈ c.roots, l <+: root.place t.cwd ∧ l ≠ root.place t.cwd := by
  cases e with
  | file b =>
    left
    obtain ⟨x, hx, rfl⟩ := (hm.file_iff l).1 ⟨hold, b, he⟩
    obtain ⟨root, hroot, names, hne, -, hplace⟩ := below_root hp (List.mem_of_mem_take hx) t.cwd
    rw [hplace] at he ⊢
    exact ⟨root, hroot, List.prefix_append _ _, hu.isTree.directory_of_append hne he⟩
  | directory =>
    obtain ⟨x, hx, hway⟩ := hm.directory l hold he
    obtain ⟨root, hroot, names, -, hcomp, hplace⟩ := below_root hp (List.mem_of_mem_take hx) t.cwd
    obtain ⟨rel, -, hrel⟩ := Path.exists_of_mem_way (hroots.plain ht hroot).down hcomp hway
    by_cases hbelow : root.place t.cwd <+: l
    · left
      refine ⟨root, hroot, hbelow, ?_⟩
      by_cases hl : root.place t.cwd = l
      · rw [hl, he]
      · exact hu.directory_of_isPrefix he hbelow hl
    · right
      refine ⟨rfl, root, hroot, ?_, fun hl => hbelow (hl ▸ List.prefix_refl l)⟩
      have hroot' : root.place t.cwd <+: x.2.place t.cwd := hplace ▸ List.prefix_append _ _
      have hl : l <+: x.2.place t.cwd := hrel ▸ List.prefix_append _ _
      exact (List.prefix_or_prefix_of_prefix hl hroot').resolve_right hbelow

/-- What a round has made can be removed if the paths of its roots are not too long. -/
theorem removable_of_short (hroots : c.RootsFree t) (ht : t.Sound) (hu : u.Sound)
    (hm : p.Made m t u k) (hshort : ∀ root ∈ c.roots, Clean.Short t root) : c.Removable t u := by
  intro l e hold he
  rcases below_or_above hp hroots ht hu hm hold he with ⟨root, hroot, hbelow, hd⟩ | h
  · exact .inl ⟨root, hroot, hshort root hroot, hbelow, hd⟩
  · exact .inr h

/-! ## Taking it back -/

section

variable (hroots : c.RootsFree t) (ht : t.Sound) (hu : u.Sound) (hw : t.Within u)
  (hm : p.Made m t u k)

include hroots ht hu hw hm

/-- A root that has become a file is the second one, and lies below the first, a directory. -/
theorem generatedRoot_above_file (hr : c.Removable t u) {done rest : List Location} {b : ByteArray}
    (hls : c.reachedRoots u = done ++ l :: rest) (hb : u.get? l = some (.file b)) :
    ∃ k ∈ done, k <+: l := by
  have hmem : l ∈ c.reachedRoots u := hls ▸ List.mem_append_right _ List.mem_cons_self
  obtain ⟨root, hroot, -, hplace, hold⟩ := hroots.of_mem_reachedRoots ht hu hw hmem
  obtain ⟨above, habove, hshort, hal, hd⟩ := (hr l _ hold hb).resolve_right fun h => by cases h.1
  have hne : above.place t.cwd ≠ l := by
    rintro h
    rw [h, hb] at hd
    cases hd
  -- The generated root is a directory, as the first file is below it.
  have hgen : root ≠ c.generatedRoot := by
    rintro rfl
    obtain ⟨x, hx, -⟩ := (hm.file_iff l).1 ⟨hold, b, hb⟩
    obtain ⟨y, hy, names, hnames, hyp⟩ := exists_first_below hp hx t.cwd
    obtain ⟨-, b', hb'⟩ := (hm.file_iff _).2 ⟨y, hy, rfl⟩
    rw [hyp, ← hplace] at hb'
    rw [hu.isTree.directory_of_append hnames hb'] at hb
    cases hb
  simp only [roots, List.mem_cons, List.not_mem_nil, or_false] at hroot habove
  obtain rfl := hroot.resolve_left hgen
  obtain rfl : above = c.generatedRoot := habove.resolve_right fun h => hne (by rw [h, hplace])
  have hfirst : Clean.reached? u c.generatedRoot = some (c.generatedRoot.place t.cwd) := by
    rw [Clean.Short, ← hw.cwd] at hshort
    rw [← hw.cwd] at hd ⊢
    exact Clean.reached?_of_directory hu (hroots.down c.generatedRoot (by simp [roots])) hshort hd
  refine ⟨_, ?_, hal⟩
  rw [reachedRoots, roots, List.filterMap_cons_some hfirst] at hls
  cases done with
  | nil => exact absurd (List.cons.inj hls).1 hne
  | cons k done =>
    rw [(List.cons.inj hls).1]
    exact List.mem_cons_self

omit hp hm in
/-- What is removed was not there before the round. -/
theorem get?_of_mem_reachedRoots (hl : l ∈ c.reachedRoots u) : t.get? l = none := by
  obtain ⟨-, -, -, -, hold⟩ := hroots.of_mem_reachedRoots ht hu hw hl
  exact hold

/-- Where all that is new can be removed, no root stays. -/
theorem Cleaned.without_of_removable {r : Except CleanError Unit} (h : Cleaned c u r v)
    (hbase : (FileTree.pathOf t.cwd).text.utf8ByteSize < FileTree.maxPath)
    (hr : c.Removable t u) : r = .ok () ∧ u.Without (c.reachedRoots u) v := by
  cases h with
  | unresolved hf =>
    have := hu.lookup_of_directory (FileTree.components_pathOf hu.cwd_names)
      (by rw [hw.cwd]; exact hbase) hu.cwd
    rw [hf] at this
    cases this
  | refused hroot hl hcwd =>
    have hold := get?_of_mem_reachedRoots hroots ht hu hw (List.mem_filterMap.2 ⟨_, hroot, hl⟩)
    rw [ht.get?_of_isPrefix_cwd (hw.cwd ▸ hcwd)] at hold
    cases hold
  | removed _ _ hrem =>
    cases hrem with
    | all hv _ => exact ⟨rfl, hv⟩
    | refused hls _ hb hapart =>
      obtain ⟨k, hk, hkl⟩ := generatedRoot_above_file hp hroots ht hu hw hm hr hls hb
      exact absurd hkl (hapart k hk)

omit hp ht hm in
/-- What is there without the roots was there before, or is a directory above one of them. -/
theorem old_or_above (hv : u.Without (c.reachedRoots u) v) (hr : c.Removable t u) {e : Entry}
    (he : v.get? l = some e) : t.get? l = some e ∨
      e = .directory ∧ ∃ root ∈ c.roots, l <+: root.place t.cwd ∧ l ≠ root.place t.cwd := by
  obtain ⟨hue, hapart⟩ := (hv.get?_iff l e).1 he
  cases hold : t.get? l with
  | none =>
    right
    rcases hr l e hold hue with ⟨root, hroot, hshort, hbelow, hd⟩ | h
    · exact absurd hbelow (hapart _ (hroots.mem_reachedRoots hu hw hroot hshort hd))
    · exact h
  | some x =>
    left
    have := hw.keeps l x hold
    rwa [hue, eq_comm] at this

/-- Of what can be removed nothing stays but directories above the roots. -/
theorem Cleaned.restored {r : Except CleanError Unit} (h : Cleaned c u r v)
    (hbase : (FileTree.pathOf t.cwd).text.utf8ByteSize < FileTree.maxPath)
    (hr : c.Removable t u) : r = .ok () ∧ c.Restored t v := by
  obtain ⟨hres, hv⟩ := h.without_of_removable hp hroots ht hu hw hm hbase hr
  have hrest {l : Location} {e : Entry} (he : v.get? l = some e) :=
    old_or_above hroots hu hw hv hr he
  refine ⟨hres, ⟨hv.cwd.trans hw.cwd, fun l e he => ?_⟩, fun l b hb => ?_, fun l hd => ?_⟩
  · refine (hv.get?_iff l e).2 ⟨hw.keeps l e he, fun k hk hkl => ?_⟩
    have hold := get?_of_mem_reachedRoots hroots ht hu hw hk
    by_cases hne : k = l
    · rw [hne, he] at hold
      cases hold
    · rw [ht.directory_of_isPrefix he hkl hne] at hold
      cases hold
  · exact (hrest hb).resolve_right fun h => by cases h.1
  · exact (hrest hd).imp_right And.right

omit hp hm in
/-- A removal that restores the tree had nothing to do that it cannot do. -/
theorem Cleaned.removable (h : Cleaned c u (.ok ()) v) (hv : c.Restored t v) :
    (FileTree.pathOf t.cwd).text.utf8ByteSize < FileTree.maxPath ∧ c.Removable t u := by
  refine ⟨hw.cwd ▸ h.base_short, fun l e hold he => ?_⟩
  cases h with
  | removed _ _ hr =>
  cases hr with
  | all hwithout hdirs =>
  cases hvl : v.get? l with
  | none =>
    left
    obtain ⟨k, hk, hkl⟩ := hwithout.exists_of_gone (by simp [he]) hvl
    obtain ⟨k', hk', hkk, hd⟩ := hdirs k hk
    obtain ⟨root, hroot, hshort, rfl, -⟩ := hroots.of_mem_reachedRoots ht hu hw hk'
    exact ⟨root, hroot, hshort, hkk.trans hkl, hd⟩
  | some x =>
    right
    have hx := hwithout.within.keeps l x hvl
    rw [he] at hx
    obtain rfl := Option.some.inj hx
    cases e with
    | file b =>
      rw [hv.files l b hvl] at hold
      cases hold
    | directory =>
      refine ⟨rfl, (hv.directories l hvl).resolve_left fun h => ?_⟩
      rw [h] at hold
      cases hold

end

end

/-- However a round ends that started without the roots, removing the output afterwards succeeds and
restores the old tree, but for directories above the roots, exactly if the path of the working
directory is not too long and what is new can be removed; and all of it can be removed if the paths
of the roots are not too long. -/
theorem clean_undoes_round {c : Config} {p : Processor} {w w' : World}
    (h : (Processor.ofConfig c).runOn w = (.ok p, w')) (ht : w.tree.Sound)
    (hroots : c.RootsFree w.tree) (r : Round) :
    let t := w.tree
    let after := ((p.processRound r).runOn w').2
    let result := (c.clean.runOn after).1
    let u := (c.clean.runOn after).2.tree
    (result = .ok () ∧ c.Restored t u ↔
      (FileTree.pathOf t.cwd).text.utf8ByteSize < FileTree.maxPath ∧
        c.Removable t after.tree) ∧
      ((∀ root ∈ c.roots, Clean.Short t root) → c.Removable t after.tree) := by
  intro t after result u
  obtain ⟨hp, -, htree, -⟩ := Processor.of_runOn_ofConfig h
  have hround := Processor.processed_processRound hp r w'
  have hsound : after.tree.Sound := p.sound_processRound r (htree ▸ ht)
  rw [htree] at hround
  obtain ⟨k, hm, -, -⟩ := hround.exists_made
  have hcleaned : c.Cleaned after.tree result u := cleaned_clean c after
  refine ⟨⟨fun ⟨hok, hu⟩ => ?_, fun ⟨hbase, hr⟩ => ?_⟩, ?_⟩
  · exact (hok ▸ hcleaned).removable hroots ht hsound hround.within hu
  · exact hcleaned.restored hp hroots ht hsound hround.within hm hbase hr
  · exact removable_of_short hp hroots ht hsound hm

/-- A round that has made its second root a file, below the first, and so stopped. -/
theorem clean_undoes_partial_round :
    let c : Config := { generatedRoot := ⟨"o"⟩, counterpartRoot := ⟨"o/a/StubBase.rs"⟩ }
    let p : Processor := ⟨{}, .ofRoots ⟨"o"⟩ ⟨"o/a/StubBase.rs"⟩ "rs", .lenient⟩
    let r : Round := .ofDeclarations
      [{ name := "a.B", markers := [{ kind := .restController }] }]
    let w : World := { tree := ⟨[(["w"], .directory), (["w", "f"], .file "".toUTF8)], ["w"]⟩ }
    let after := ((p.processRound r).runOn w).2
    ((p.processRound r).runOn w).1.isOk = false ∧
      after.tree.isFile c.counterpartRoot = true ∧ (c.clean.runOn after).1 = .ok () ∧
      c.Restored w.tree (c.clean.runOn after).2.tree := by
  intro c p r w
  have hp : (Processor.ofConfig c).runOn w = (.ok p, w) :=
    Processor.runOn_ofConfig (by decide +kernel) rfl
  have ht : w.tree.Sound := by decide +kernel
  have hroots : c.RootsFree w.tree := ⟨by decide +kernel, by decide +kernel, by decide +kernel⟩
  have hbase : (FileTree.pathOf w.tree.cwd).text.utf8ByteSize < FileTree.maxPath := by
    decide +kernel
  have hshort : ∀ root ∈ c.roots, Clean.Short w.tree root := by decide +kernel
  have hundone := clean_undoes_round hp ht hroots r
  exact ⟨by decide +kernel, by decide +kernel, hundone.1.2 ⟨hbase, hundone.2 hshort⟩⟩

/-! ## A root that is too long -/

/-- The path of a file below a padded root need not be too long. -/
theorem endsIn_padded {n : Nat} (hn : n < 4084) :
    ∃ before, ((padded n).join ⟨"StubBase"⟩).EndsIn before "StubBase".toList ∧
      FileTree.checkText ((padded n).join ⟨"StubBase"⟩) = .ok () := by
  have hjoin : (padded n).join ⟨"StubBase"⟩ =
      ⟨"out" ++ String.ofList (List.replicate (n + 1) '/') ++ "StubBase"⟩ :=
    Path.join_slashed "out" n (by decide)
  have htext : ((padded n).join ⟨"StubBase"⟩).text.toList =
      "out".toList ++ (List.replicate (n + 1) '/' ++ "StubBase".toList) := by
    rw [hjoin]
    simp
  obtain ⟨-, hbody⟩ := Path.head_body_of_slashes (by decide) (by decide) (by decide) htext
  refine ⟨"out".toList :: List.replicate n [], ⟨hbody, by decide, by decide⟩,
    FileTree.checkText_eq_ok_iff.2 ⟨?_, ?_, ?_⟩⟩
  · rw [htext]
    simp
  · rw [hjoin]
    simp
  · have hout : "out".utf8ByteSize = 3 := by decide
    have hbase : "StubBase".utf8ByteSize = 8 := by decide
    rw [hjoin, String.utf8ByteSize_append, String.utf8ByteSize_append, Path.size_slashes, hout,
      hbase, FileTree.maxPath]
    omega

def ofPadded (n : Nat) : Config :=
  { generatedRoot := padded n, counterpartRoot := ⟨"mirror"⟩, extension := "" }

def paddedProcessor (n : Nat) : Processor :=
  ⟨{}, .ofRoots (padded n) ⟨"mirror"⟩ "", .lenient⟩

/-- One controller outside of any package. -/
def loneRound : Round :=
  .ofDeclarations [{ name := "A", markers := [{ kind := .restController }] }]

/-- Nothing but a working directory. -/
def bareWorld : World := { tree := ⟨[(["workspace"], .directory)], ["workspace"]⟩ }

theorem sound_bareWorld : bareWorld.tree.Sound := by decide

theorem components_of_mem_roots {n : Nat} (h : root ∈ (ofPadded n).roots) :
    root.components = [.normal "out"] ∨ root.components = [.normal "mirror"] := by
  simp only [roots, ofPadded, List.mem_cons, List.not_mem_nil, or_false] at h
  rcases h with rfl | rfl
  · exact .inl (components_padded n)
  · exact .inr (by decide)

theorem get?_place_padded {n : Nat} (h : root ∈ (ofPadded n).roots) :
    bareWorld.tree.get? (root.place bareWorld.tree.cwd) = none := by
  rcases components_of_mem_roots h with h | h <;> rw [Path.place, h] <;> rfl

theorem rootsFree_padded (n : Nat) : (ofPadded n).RootsFree bareWorld.tree := by
  refine ⟨fun root hroot => ?_, fun root hroot => ?_, fun root hroot => ?_⟩
  · rcases components_of_mem_roots hroot with h | h <;> rw [h] <;> decide
  · refine FileTree.pathExists_of_place ?_
    rw [sound_bareWorld.place_base, get?_place_padded hroot]
  · rw [get?_place_padded hroot]
    simp

theorem runOn_ofConfig_padded (n : Nat) :
    (Processor.ofConfig (ofPadded n)).runOn bareWorld = (.ok (paddedProcessor n), bareWorld) := by
  have hmissing : bareWorld.tree.pathExists (padded n) = false :=
    FileTree.pathExists_of_place (get?_place_padded (n := n) (by simp [roots, ofPadded]))
  have hmirror : (Path.mk "mirror").components = [.normal "mirror"] := by decide
  refine Processor.runOn_ofConfig ?_ rfl
  rw [ofPadded, Processor.sameDirectory_of_not_pathExists hmissing, components_padded, hmirror]
  decide

/-- The base of the round has its place in the padded root. -/
theorem targets_padded (n : Nat) : ∃ a, (paddedProcessor n).emitter.targets "StubBase" = .ok a ∧
    a.canonical = (padded n).join ⟨"StubBase"⟩ ∧
    a.canonical.components = [.normal "out", .normal "StubBase"] := by
  obtain ⟨a, ha⟩ : ∃ a, (paddedProcessor n).emitter.targets "StubBase" = .ok a :=
    Emitter.exists_targets_iff.2 ⟨by decide, by simp [Layout.ending, Text.pieces]⟩
  refine ⟨a, ha, (Layout.path_eq_ok_iff.1 (Emitter.targets_eq_ok_iff.1 ha).2.1).2, ?_⟩
  rw [(Emitter.components_of_targets ha).1, components_padded]
  rfl

/-- A tree with the root and a file in it, reached through a path to its place that is not too
long. -/
theorem exists_tree_with_file {q : Path} {before : List (List Char)} (bytes : ByteArray)
    (hends : q.EndsIn before "StubBase".toList) (hchecked : FileTree.checkText q = .ok ())
    (hq : q.components = [.normal "out", .normal "StubBase"]) :
    ∃ v, bareWorld.tree.Within v ∧
      v.lookup q = .ok (["workspace", "out", "StubBase"], .file bytes) := by
  let u : FileTree := bareWorld.tree.insert (["workspace"] ++ ["out"]) .directory
  let v : FileTree := u.insert (["workspace", "out"] ++ ["StubBase"]) (.file bytes)
  have hu : u.Sound := sound_bareWorld.insert (by decide) (by decide) (by decide) _
  have hnone : u.get? (["workspace", "out"] ++ ["StubBase"]) = none := by decide
  have hv : v.Sound := hu.insert (by decide) (by decide) hnone _
  have hplace : q.place v.cwd = ["workspace", "out", "StubBase"] := by
    rw [Path.place, hq]
    rfl
  refine ⟨v, (FileTree.grows_insert (t := bareWorld.tree) (by decide) .directory).within.trans
    (FileTree.grows_insert hnone _).within, ?_⟩
  rw [← hplace]
  refine hv.lookup_of_endsIn hends (by rw [hq]; decide) hchecked ?_
  rw [hplace]
  exact FileTree.get?_insert_self _ hnone

/-- A round makes its first file below a padded root that is not yet there. -/
theorem file_below_padded {n : Nat} (hn : n < 4084) :
    (((paddedProcessor n).processRound loneRound).runOn bareWorld).2.tree.get?
      ["workspace", "out", "StubBase"] ≠ none := by
  have hok : ((paddedProcessor n).overrides.text (scan loneRound.declarations) .stubBase).isOk =
      true :=
    show ((({} : Overrides).text (scan loneRound.declarations) .stubBase)).isOk = true by
      decide +kernel
  obtain ⟨text, htext⟩ := Outcome.isOk_iff.1 hok
  have hname : ArtifactKind.stubBase.nameIn (scan loneRound.declarations) = "StubBase" := by decide
  obtain ⟨a, ha, hcanonical, hcomponents⟩ := targets_padded n
  obtain ⟨before, hends, hchecked⟩ := endsIn_padded hn
  rw [← hcanonical] at hends hchecked
  obtain ⟨v, hw, hlookup⟩ := exists_tree_with_file text.toUTF8 hends hchecked hcomponents
  have hdown : Path.Component.parent ∉ a.canonical.components := by
    rw [hcomponents]
    decide
  have hmade : ∀ x : World, x.tree = bareWorld.tree → ∃ x',
      (Emitter.writeNew a.canonical text).runOn x = (.ok (), x') ∧
        x'.tree.get? ["workspace", "out", "StubBase"] ≠ none := by
    intro x hx
    obtain ⟨x', hx', -, hthere⟩ := Emitter.runOn_writeNew_within hends (Path.not_mem_body hdown)
      (by rw [hx]; exact sound_bareWorld.cwd) (by rw [hx]; exact hw) hlookup (by rw [hx]; decide)
    exact ⟨x', hx', by rw [(FileTree.lookup_eq_ok_iff.1 hthere).2]; simp⟩
  exact Processor.of_writeNew_processRound
    (P := fun t => t.get? ["workspace", "out", "StubBase"] ≠ none)
    (fun hP h => (Emitter.adds_createDirectory (.refl _) h).get?_ne_none hP)
    (fun hP h => (Emitter.adds_createFile (.refl _) h).get?_ne_none hP)
    (by decide) (by rfl) htext (hname ▸ ha) hmade rfl

/-- What a round has made below a padded root stays if the path of the root is too long from the
working directory, while the paths of its files are not. -/
theorem leaves_padded {n : Nat} (hn : 4081 ≤ n) (hn' : n < 4084) :
    let c : Config :=
      { generatedRoot := padded n, counterpartRoot := ⟨"mirror"⟩, extension := "" }
    let p : Processor := ⟨{}, .ofRoots (padded n) ⟨"mirror"⟩ "", .lenient⟩
    let r : Round := .ofDeclarations [{ name := "A", markers := [{ kind := .restController }] }]
    let w : World := { tree := ⟨[(["workspace"], .directory)], ["workspace"]⟩ }
    let after := ((p.processRound r).runOn w).2
    (Processor.ofConfig c).runOn w = (.ok p, w) ∧ w.tree.Sound ∧ c.RootsFree w.tree ∧
      ¬((c.clean.runOn after).1 = .ok () ∧ c.Restored w.tree (c.clean.runOn after).2.tree) := by
  intro c p r w after
  have hroots : c.RootsFree w.tree := rootsFree_padded n
  have hafter : after.tree.get? ["workspace", "out", "StubBase"] ≠ none := file_below_padded hn'
  refine ⟨runOn_ofConfig_padded n, sound_bareWorld, hroots, ?_⟩
  rintro ⟨hok, hrestored⟩
  have hround := Processor.processed_processRound (p := p) rfl r w
  have hsound := p.sound_processRound r sound_bareWorld
  have hcleaned := cleaned_clean c after
  rw [hok] at hcleaned
  obtain ⟨-, hr⟩ :=
    hcleaned.removable hroots sound_bareWorld hsound hround.within hrestored
  obtain ⟨e, he⟩ := Option.ne_none_iff_exists'.1 hafter
  rcases hr _ e rfl he with ⟨root, hroot, hshort, hbelow, -⟩ | ⟨-, root, hroot, habove, -⟩
  · -- The file is below the padded root, and that is too long to be found.
    simp only [c, roots, List.mem_cons, List.not_mem_nil, or_false] at hroot
    rcases hroot with rfl | rfl
    · exact not_short_padded hn rfl hshort
    · revert hbelow
      decide
  · rcases components_of_mem_roots hroot with h | h <;> rw [Path.place, h] at habove <;>
      revert habove <;> decide

/-- The root has 4086 bytes, its files 4094 at most. -/
theorem clean_leaves_padded_root :
    let c : Config :=
      { generatedRoot := padded 4082, counterpartRoot := ⟨"mirror"⟩, extension := "" }
    let p : Processor := ⟨{}, .ofRoots (padded 4082) ⟨"mirror"⟩ "", .lenient⟩
    let r : Round := .ofDeclarations [{ name := "A", markers := [{ kind := .restController }] }]
    let w : World := { tree := ⟨[(["workspace"], .directory)], ["workspace"]⟩ }
    let after := ((p.processRound r).runOn w).2
    (Processor.ofConfig c).runOn w = (.ok p, w) ∧ w.tree.Sound ∧ c.RootsFree w.tree ∧
      ¬((c.clean.runOn after).1 = .ok () ∧ c.Restored w.tree (c.clean.runOn after).2.tree) :=
  leaves_padded (by decide) (by decide)

end Config

end EndpointStubs
