import EndpointStubs.Proofs.Clean.Removed
import EndpointStubs.Proofs.FileTree.Base

/-!
# Free roots

Roots that are reached and roots that are not. In a sound tree a root with a directory at its place
is reached if its path, seen from the working directory, is not too long; and a root that is only
reached after the tree has grown was not there before.

    Clean.reached? t root = some l → l = root.place t.cwd
    c.RootsFree t → t.Within u → l ∈ c.reachedRoots u → t.get? l = none
-/

namespace EndpointStubs

namespace Clean

variable {t u : FileTree} {root : Path} {l : Location}

/-- A root that is reached is reached at its place. -/
theorem eq_place_of_reached? (ht : t.Sound) (h : reached? t root = some l) :
    l = root.place t.cwd := by
  obtain ⟨e, he⟩ := reached?_eq_some_iff.1 h
  rw [FileTree.eq_place_of_resolve (FileTree.lookup_eq_ok_iff.1 he).1, ht.place_base]

/-- The path of a root, as seen from the working directory, is not too long. -/
def Short (t : FileTree) (root : Path) : Prop :=
  ((FileTree.pathOf t.cwd).join root).text.utf8ByteSize < FileTree.maxPath

instance (t : FileTree) (root : Path) : Decidable (Short t root) :=
  inferInstanceAs (Decidable (_ < _))

theorem short_of_reached? (h : reached? t root = some l) : Short t root := by
  obtain ⟨e, he⟩ := reached?_eq_some_iff.1 h
  have hc := (FileTree.resolve_eq_ok_iff.1 (FileTree.lookup_eq_ok_iff.1 he).1).1
  exact (FileTree.checkText_eq_ok_iff.1 hc).2.2

/-- A root is reached if a directory is at its place. -/
theorem reached?_of_directory (ht : t.Sound) (hdown : Path.Component.parent ∉ root.components)
    (hshort : Short t root) (hd : t.get? (root.place t.cwd) = some .directory) :
    reached? t root = some (root.place t.cwd) :=
  reached?_eq_some_iff.2 ⟨_, ht.lookup_of_directory (ht.components_base hdown) hshort hd⟩

/-- Nothing was at the place of a root that is reached only after the tree has grown. -/
theorem get?_of_newly_reached (ht : t.Sound) (hw : t.Within u)
    (hdown : Path.Component.parent ∉ root.components) (hnone : reached? t root = none)
    (h : reached? u root = some l) : t.get? l = none := by
  refine Classical.byContradiction fun hold => ?_
  obtain ⟨e, he⟩ := reached?_eq_some_iff.1 h
  rw [hw.cwd] at he
  have hbase : Path.Component.parent ∉ ((FileTree.pathOf t.cwd).join root).components := by
    rw [ht.components_base hdown]
    simp
  have hlookup := FileTree.lookup_of_within ht.isTree hw hbase he hold
  rw [reached?_eq_some_iff.2 ⟨e, hlookup⟩] at hnone
  cases hnone

/-- Removing what does not hold the working directory keeps a tree sound. -/
theorem sound_forM {ls : List Location} {w : World} (hls : ∀ l ∈ ls, ¬l <+: w.tree.cwd)
    (h : w.tree.Sound) : ((ls.forM remove).runOn w).2.tree.Sound := by
  induction ls generalizing w with
  | nil => exact h
  | cons l ls ih =>
    have hone : ((remove l).runOn w).2.tree.cwd = w.tree.cwd ∧
        ((remove l).runOn w).2.tree.Sound := by
      rw [runOn_remove]
      cases w.tree.get? l with
      | none => exact ⟨rfl, h⟩
      | some e =>
        cases e with
        | file b => exact ⟨rfl, h⟩
        | directory =>
          have hcwd := hls l List.mem_cons_self
          exact ⟨rfl, h.erase (fun hnil => hcwd (hnil ▸ List.nil_prefix)) hcwd⟩
    have hforM : (l :: ls).forM remove = remove l >>= fun _ => ls.forM remove := rfl
    rw [hforM, Session.runOn_bind]
    generalize (remove l).runOn w = r at hone
    obtain ⟨e | _, w'⟩ := r
    · exact hone.2
    · exact ih (fun k hk => hone.1 ▸ hls k (List.mem_cons_of_mem _ hk)) hone.2

/-- Removing the output keeps a tree sound. -/
theorem sound_clean (c : Config) {w : World} (h : w.tree.Sound) :
    (c.clean.runOn w).2.tree.Sound := by
  rcases c.runOn_clean w with ⟨f, -, hrun⟩ | ⟨root, -, l, -, -, hrun⟩ | ⟨-, hapart, hrun⟩
  · rw [hrun]
    exact h
  · rw [hrun]
    exact h
  · rw [hrun]
    exact sound_forM hapart h

end Clean

namespace Config

/-- The roots stay down, and nothing is there. A directory whose path is too long would not be
found, so that there is none is said as well. -/
structure RootsFree (c : Config) (t : FileTree) : Prop where
  down : ∀ root ∈ c.roots, Path.Component.parent ∉ root.components
  free : ∀ root ∈ c.roots, t.pathExists ((FileTree.pathOf t.cwd).join root) = false
  bare : ∀ root ∈ c.roots, t.get? (root.place t.cwd) ≠ some .directory

variable {c : Config} {t u : FileTree} {root : Path} {l : Location}

/-- A removal that succeeds has found the working directory. -/
theorem Cleaned.base_short (h : Cleaned c t (.ok ()) u) :
    (FileTree.pathOf t.cwd).text.utf8ByteSize < FileTree.maxPath := by
  cases h with
  | removed hbase _ _ =>
  have hc := (FileTree.resolve_eq_ok_iff.1 (FileTree.lookup_eq_ok_iff.1 hbase).1).1
  exact (FileTree.checkText_eq_ok_iff.1 hc).2.2

theorem RootsFree.reached?_eq_none (h : c.RootsFree t) (hroot : root ∈ c.roots) :
    Clean.reached? t root = none := by
  refine Option.eq_none_iff_forall_ne_some.2 fun l hl => ?_
  obtain ⟨e, he⟩ := Clean.reached?_eq_some_iff.1 hl
  have := h.free root hroot
  rw [FileTree.pathExists_iff.2 ⟨l, e, he⟩] at this
  cases this

/-- Roots that are not there are not empty: the empty root is the working directory. -/
theorem RootsFree.plain (h : c.RootsFree t) (ht : t.Sound) (hroot : root ∈ c.roots) :
    root.Plain := by
  refine ⟨fun hempty => h.bare root hroot ?_, h.down root hroot⟩
  obtain rfl : root = ⟨""⟩ := by rw [← hempty]
  exact ht.cwd

/-- A root that is reached in a grown tree is short, and was not there before. -/
theorem RootsFree.of_mem_reachedRoots (hroots : c.RootsFree t) (ht : t.Sound) (hu : u.Sound)
    (hw : t.Within u) (hl : l ∈ c.reachedRoots u) :
    ∃ root ∈ c.roots, Clean.Short t root ∧ l = root.place t.cwd ∧ t.get? l = none := by
  obtain ⟨root, hroot, hreached⟩ := List.mem_filterMap.1 hl
  refine ⟨root, hroot, ?_, ?_, ?_⟩
  · have := Clean.short_of_reached? hreached
    rwa [Clean.Short, hw.cwd] at this
  · rw [← hw.cwd]
    exact Clean.eq_place_of_reached? hu hreached
  · exact Clean.get?_of_newly_reached ht hw (hroots.down root hroot)
      (hroots.reached?_eq_none hroot) hreached

/-- A short root that has become a directory is reached. -/
theorem RootsFree.mem_reachedRoots (hroots : c.RootsFree t) (hu : u.Sound) (hw : t.Within u)
    (hroot : root ∈ c.roots) (hshort : Clean.Short t root)
    (hd : u.get? (root.place t.cwd) = some .directory) : root.place t.cwd ∈ c.reachedRoots u := by
  rw [Clean.Short, ← hw.cwd] at hshort
  rw [← hw.cwd] at hd ⊢
  exact List.mem_filterMap.2 ⟨root, hroot, Clean.reached?_of_directory hu (hroots.down root hroot)
    hshort hd⟩

end Config

end EndpointStubs
