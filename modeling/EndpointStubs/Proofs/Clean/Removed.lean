import Mathlib.Data.List.Induction
import EndpointStubs.Clean
import EndpointStubs.Proofs.FileTree.Removal
import EndpointStubs.Proofs.Session

/-!
# Removed roots

What removing the output does to the tree. Both roots are looked up first, in the tree as it is
then; if neither holds the working directory they are removed one after the other, and a root
below an earlier one goes with it. Only a file as root stops this.

    c.clean, run on t, gives u → t.Without ls u          for a first part ls of the reached roots
    ls is all of them if the removal succeeds
-/

namespace EndpointStubs

open FileTree (Without)

namespace Clean

variable {t u : FileTree} {ls : List Location} {roots : List Path} {root : Path} {l : Location}

/-- The location that a root leads to from the working directory, if something is there. -/
def reached? (t : FileTree) (root : Path) : Option Location :=
  (t.lookup ((FileTree.pathOf t.cwd).join root)).toOption.map Prod.fst

/-- A location is reached if the joined path leads to an entry there. -/
theorem reached?_eq_some_iff :
    reached? t root = some l ↔ ∃ e, t.lookup ((FileTree.pathOf t.cwd).join root) = .ok (l, e) := by
  unfold reached?
  cases t.lookup ((FileTree.pathOf t.cwd).join root) with
  | error f => simp [Except.toOption]
  | ok x =>
    simp only [Except.toOption, Option.map_some, Option.some.injEq, Except.ok.injEq]
    exact ⟨fun h => ⟨x.2, h ▸ rfl⟩, fun ⟨e, h⟩ => h ▸ rfl⟩

theorem get?_of_reached? (h : reached? t root = some l) : t.get? l ≠ none := by
  obtain ⟨e, he⟩ := reached?_eq_some_iff.1 h
  rw [(FileTree.lookup_eq_ok_iff.1 he).2]
  simp

/-! ## What is to be removed -/

/-- A root is refused if it holds the working directory, and passed over if nothing is found. -/
theorem target_eq (t : FileTree) (root : Path) :
    target t root =
      if ∃ l, reached? t root = some l ∧ l <+: t.cwd then .error (.holdsWorkingDirectory root)
      else .ok (reached? t root) := by
  unfold target reached?
  cases t.lookup ((FileTree.pathOf t.cwd).join root) with
  | error f => simp [Except.toOption]
  | ok x => simp [Except.toOption, List.isPrefixOf_iff_prefix]

theorem targets_cons (t : FileTree) (root : Path) (roots : List Path) :
    targets t (root :: roots) = do
      let l? ← target t root
      let ls ← targets t roots
      return l?.toList ++ ls := by
  unfold targets
  rw [List.mapM_cons]
  cases target t root with
  | error e => rfl
  | ok l? =>
    cases roots.mapM (target t) with
    | error e => rfl
    | ok ls => cases l? <;> rfl

/-- Whether something is to be removed is decided for all roots before anything is. -/
theorem targets_eq (t : FileTree) (roots : List Path) :
    (∃ root ∈ roots, ∃ l, reached? t root = some l ∧ l <+: t.cwd ∧
        targets t roots = .error (.holdsWorkingDirectory root)) ∨
      (∀ l ∈ roots.filterMap (reached? t), ¬l <+: t.cwd) ∧
        targets t roots = .ok (roots.filterMap (reached? t)) := by
  induction roots with
  | nil => exact .inr ⟨by simp, rfl⟩
  | cons root roots ih =>
    rw [targets_cons, target_eq]
    by_cases hroot : ∃ l, reached? t root = some l ∧ l <+: t.cwd
    · left
      obtain ⟨l, hl, hcwd⟩ := hroot
      exact ⟨root, List.mem_cons_self, l, hl, hcwd, by rw [if_pos ⟨l, hl, hcwd⟩]; rfl⟩
    · rw [if_neg hroot]
      rcases ih with ⟨r, hr, l, hl, hcwd, he⟩ | ⟨hapart, he⟩
      · exact .inl ⟨r, List.mem_cons_of_mem _ hr, l, hl, hcwd, by rw [he]; rfl⟩
      · right
        rw [he]
        cases hl : reached? t root with
        | none =>
          rw [List.filterMap_cons_none hl]
          exact ⟨hapart, rfl⟩
        | some l =>
          rw [List.filterMap_cons_some hl]
          refine ⟨fun k hk hcwd => ?_, rfl⟩
          rcases List.mem_cons.1 hk with rfl | hk
          · exact hroot ⟨_, hl, hcwd⟩
          · exact hapart k hk hcwd

/-! ## Removing -/

/-- How removing locations of `t` ends: all are gone, with directories, or the next one is a
file. -/
inductive Removed (t : FileTree) (ls : List Location) : Except CleanError Unit → FileTree → Prop
  | all {u : FileTree} : t.Without ls u →
      (∀ l ∈ ls, ∃ k ∈ ls, k <+: l ∧ t.get? k = some .directory) → Removed t ls (.ok ()) u
  | refused {done rest : List Location} {l : Location} {bytes : ByteArray} {err : CleanError}
      {u : FileTree} : ls = done ++ l :: rest → t.Without done u → t.get? l = some (.file bytes) →
      (∀ k ∈ done, ¬k <+: l) → Removed t ls (.error err) u

/-- What is gone already is passed over, a file is refused, and a directory is removed. -/
theorem runOn_remove (l : Location) (w : World) :
    (remove l).runOn w =
      match w.tree.get? l with
      | none => (.ok (), w)
      | some (.file _) => (.error (.notRemoved (FileTree.pathOf l) .notADirectory), w)
      | some .directory =>
        (.ok (), { tree := w.tree.erase l
                   events := w.events ++ [⟨.info, "stubgen::cli::commands", "removed output root",
                     [("path", .shown (FileTree.pathOf l).text)]⟩] }) := by
  unfold remove
  rw [Session.runOn_bind, Session.runOn_tree]
  simp only
  cases w.tree.get? l with
  | none => rfl
  | some e => cases e <;> rfl

/-- After some locations, the next one is gone already, or a file, or it is removed. -/
theorem removed_remove {w : World} (h : t.Without ls w.tree)
    (hdirs : ∀ l ∈ ls, ∃ k ∈ ls, k <+: l ∧ t.get? k = some .directory) (hl : l ≠ [])
    (ht : t.get? l ≠ none) :
    Removed t (ls ++ [l]) ((remove l).runOn w).1 ((remove l).runOn w).2.tree := by
  have hall (hlast : ∃ k ∈ ls ++ [l], k <+: l ∧ t.get? k = some .directory) :
      ∀ m ∈ ls ++ [l], ∃ k ∈ ls ++ [l], k <+: m ∧ t.get? k = some .directory := by
    intro m hm
    rcases List.mem_append.1 hm with hm | hm
    · obtain ⟨k, hk, h⟩ := hdirs m hm
      exact ⟨k, List.mem_append_left _ hk, h⟩
    · exact List.mem_singleton.1 hm ▸ hlast
  rw [runOn_remove]
  cases he : w.tree.get? l with
  | none =>
    obtain ⟨k, hk, hkl⟩ := h.exists_of_gone ht he
    obtain ⟨k', hk', hkk, hd⟩ := hdirs k hk
    exact .all (h.append_gone ht he) (hall ⟨k', List.mem_append_left _ hk', hkk.trans hkl, hd⟩)
  | some e =>
    obtain ⟨hte, hapart⟩ := (h.get?_iff l e).1 he
    cases e with
    | file bytes => exact .refused rfl h hte hapart
    | directory =>
      exact .all (h.trans (FileTree.without_erase hl w.tree))
        (hall ⟨l, by simp, List.prefix_refl l, hte⟩)

/-- The locations are removed in order, up to the first that is a file by then. -/
theorem removed_forM (ls : List Location) (w : World)
    (hls : ∀ l ∈ ls, l ≠ [] ∧ w.tree.get? l ≠ none) :
    Removed w.tree ls ((ls.forM remove).runOn w).1 ((ls.forM remove).runOn w).2.tree := by
  induction ls using List.reverseRecOn with
  | nil => exact .all (FileTree.Without.refl w.tree) (by simp)
  | append_singleton ls l ih =>
    have h := ih fun k hk => hls k (List.mem_append_left _ hk)
    obtain ⟨hl, ht⟩ := hls l (by simp)
    have hforM : (ls ++ [l]).forM remove = ls.forM remove >>= fun _ => remove l := by simp
    rw [hforM, Session.runOn_bind]
    generalize (ls.forM remove).runOn w = r at h
    obtain ⟨r, w'⟩ := r
    cases h with
    | refused hls hw hf hapart =>
      exact .refused (by rw [hls, List.append_assoc, List.cons_append]) hw hf hapart
    | all hw hdirs => exact removed_remove hw hdirs hl ht

/-- A removal leaves everything but what is at or below the locations. -/
theorem Removed.without {r : Except CleanError Unit} (h : Removed t ls r u) :
    ∃ done, done <+: ls ∧ t.Without done u ∧ (r = .ok () → done = ls) := by
  cases h with
  | all hw _ => exact ⟨ls, List.prefix_refl _, hw, fun _ => rfl⟩
  | @refused done rest l _ _ _ hls hw _ _ => exact ⟨done, ⟨l :: rest, hls.symm⟩, hw, by simp⟩

end Clean

namespace Config

variable {c : Config} {t u : FileTree} {r : Except CleanError Unit}

/-- The locations that the roots lead to. -/
def reachedRoots (c : Config) (t : FileTree) : List Location := c.roots.filterMap (Clean.reached? t)

/-- How removing the output ends. -/
inductive Cleaned (c : Config) (t : FileTree) : Except CleanError Unit → FileTree → Prop
  | unresolved {f : Fault} : t.lookup (FileTree.pathOf t.cwd) = .error f →
      Cleaned c t (.error (.unresolved (FileTree.pathOf t.cwd) f)) t
  | refused {root : Path} {l : Location} : root ∈ c.roots → Clean.reached? t root = some l →
      l <+: t.cwd → Cleaned c t (.error (.holdsWorkingDirectory root)) t
  | removed {x : Location × Entry} {r : Except CleanError Unit} {u : FileTree} :
      t.lookup (FileTree.pathOf t.cwd) = .ok x → (∀ l ∈ c.reachedRoots t, ¬l <+: t.cwd) →
      Clean.Removed t (c.reachedRoots t) r u → Cleaned c t r u

/-- A removal is refused before anything is done, or removes the reached roots in order. -/
theorem runOn_clean (c : Config) (w : World) :
    (∃ f, w.tree.lookup (FileTree.pathOf w.tree.cwd) = .error f ∧
      c.clean.runOn w = (.error (.unresolved (FileTree.pathOf w.tree.cwd) f), w)) ∨
    (∃ root ∈ c.roots, ∃ l, Clean.reached? w.tree root = some l ∧ l <+: w.tree.cwd ∧
      c.clean.runOn w = (.error (.holdsWorkingDirectory root), w)) ∨
    (∃ x, w.tree.lookup (FileTree.pathOf w.tree.cwd) = .ok x) ∧
      (∀ l ∈ c.reachedRoots w.tree, ¬l <+: w.tree.cwd) ∧
      c.clean.runOn w = ((c.reachedRoots w.tree).forM Clean.remove).runOn w := by
  unfold clean
  simp only [Session.runOn_bind, Session.runOn_tree, Session.runOn_discard, Session.runOn_ask,
    FileTree.canonicalize]
  cases hbase : w.tree.lookup (FileTree.pathOf w.tree.cwd) with
  | error f => exact .inl ⟨f, rfl, rfl⟩
  | ok x =>
  simp only [bind, Except.bind, pure, Except.pure, Session.runOn_ofExcept]
  rcases Clean.targets_eq w.tree c.roots with ⟨root, hroot, l, hl, hcwd, he⟩ | ⟨hapart, he⟩
  · rw [he]
    exact .inr (.inl ⟨root, hroot, l, hl, hcwd, rfl⟩)
  · rw [he]
    exact .inr (.inr ⟨⟨x, rfl⟩, hapart, rfl⟩)

/-- Every run of the removal ends in one of the ways. -/
theorem cleaned_clean (c : Config) (w : World) :
    Cleaned c w.tree (c.clean.runOn w).1 (c.clean.runOn w).2.tree := by
  rcases c.runOn_clean w with ⟨f, hbase, hrun⟩ | ⟨root, hroot, l, hl, hcwd, hrun⟩ |
    ⟨⟨x, hbase⟩, hapart, hrun⟩
  · rw [hrun]
    exact .unresolved hbase
  · rw [hrun]
    exact .refused hroot hl hcwd
  · rw [hrun]
    refine .removed hbase hapart (Clean.removed_forM _ w fun l hl => ⟨?_, ?_⟩)
    · rintro rfl
      exact hapart _ hl List.nil_prefix
    · obtain ⟨root, -, hroot⟩ := List.mem_filterMap.1 hl
      exact Clean.get?_of_reached? hroot

/-- Of the old tree only subtrees at reached roots are missing, all of them after a success. -/
theorem Cleaned.without (h : Cleaned c t r u) :
    ∃ done, (∀ l ∈ done, l ∈ c.reachedRoots t ∧ ¬l <+: t.cwd) ∧ t.Without done u ∧
      (r = .ok () → done = c.reachedRoots t) := by
  cases h with
  | unresolved _ | refused _ _ _ => exact ⟨[], by simp, FileTree.Without.refl t, by simp⟩
  | removed _ hapart hr =>
    obtain ⟨done, hdone, hw, hok⟩ := hr.without
    exact ⟨done, fun l hl => ⟨hdone.subset hl, hapart l (hdone.subset hl)⟩, hw, hok⟩

/-- A reached root that holds the working directory stops everything. -/
theorem Cleaned.of_holds (h : Cleaned c t r u) {l : Location} (hl : l ∈ c.reachedRoots t)
    (hcwd : l <+: t.cwd) :
    r.isOk = false ∧ u = t := by
  cases h with
  | unresolved _ | refused _ _ _ => exact ⟨rfl, rfl⟩
  | removed _ hapart _ => exact absurd hcwd (hapart l hl)

/-- After a success neither root is there any more. -/
theorem Cleaned.free (h : Cleaned c t (.ok ()) u) :
    t.Without (c.reachedRoots t) u ∧
      ∀ root ∈ c.roots, u.pathExists ((FileTree.pathOf t.cwd).join root) = false := by
  obtain ⟨done, -, hw, hok⟩ := h.without
  obtain rfl := hok rfl
  refine ⟨hw, fun root hroot => hw.pathExists_eq_false fun l e hl => ?_⟩
  exact List.mem_filterMap.2 ⟨root, hroot, Clean.reached?_eq_some_iff.2 ⟨e, hl⟩⟩

end Config

end EndpointStubs
