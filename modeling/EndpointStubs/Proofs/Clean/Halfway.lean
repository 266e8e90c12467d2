import EndpointStubs.Proofs.Clean.Removed

/-!
# Removals that stop halfway

Both roots are looked up before either is removed, but only for holding the working directory. That
a root is a file is found out when its turn comes. So a removal that fails leaves the tree as it was
unless the first root is a directory, and gone by then, and the second one a file outside of it.

    (fails → u = t) ↔ ¬∃ d f, c.StopsHalfway t d f          for c.clean, run on t, which leaves u
    c.StopsHalfway t d f → u = t.erase d
-/

namespace EndpointStubs

namespace Clean

variable {w w' : World} {ls : List Location} {err : CleanError}

/-- Only a file is refused, and stays where it is. -/
theorem file_of_remove_eq_error {l : Location} (h : (remove l).runOn w = (.error err, w')) :
    w' = w ∧ ∃ bytes, w.tree.get? l = some (.file bytes) := by
  rw [runOn_remove] at h
  cases hl : w.tree.get? l with
  | none =>
    rw [hl] at h
    cases h
  | some x =>
    rw [hl] at h
    cases x with
    | directory => cases h
    | file bytes => exact ⟨(Prod.mk.inj h).2.symm, bytes, rfl⟩

/-- Removing locations fails at one that is a file by then, after all before it. -/
theorem exists_of_forM_eq_error (h : (ls.forM remove).runOn w = (.error err, w')) :
    ∃ done l rest bytes, ls = done ++ l :: rest ∧ (done.forM remove).runOn w = (.ok (), w') ∧
      w'.tree.get? l = some (.file bytes) := by
  obtain ⟨done, l, rest, v, hsplit, hdone, hone⟩ := Session.exists_of_runOn_forM_eq_error h
  obtain ⟨rfl, bytes, hl⟩ := file_of_remove_eq_error hone
  exact ⟨done, l, rest, bytes, hsplit, hdone, hl⟩

/-- What a root leads to can be removed only if it is a directory, which is gone then. -/
theorem directory_of_remove_eq_ok {l : Location} (hthere : w.tree.get? l ≠ none)
    (h : (remove l).runOn w = (.ok (), w')) :
    w.tree.get? l = some .directory ∧ w'.tree = w.tree.erase l := by
  rw [runOn_remove] at h
  cases hl : w.tree.get? l with
  | none => exact absurd hl hthere
  | some x =>
    rw [hl] at h
    cases x with
    | file bytes => cases h
    | directory =>
      obtain ⟨-, rfl⟩ := Prod.mk.inj h
      exact ⟨rfl, rfl⟩

end Clean

namespace Config

/-- The working directory is found and in neither root; the first root leads to a directory `d`,
and the second one to a file `f` outside of it. -/
structure StopsHalfway (c : Config) (t : FileTree) (d f : Location) : Prop where
  found : ∃ x, t.lookup (FileTree.pathOf t.cwd) = .ok x
  directory : t.lookup ((FileTree.pathOf t.cwd).join c.generatedRoot) = .ok (d, .directory)
  file : ∃ bytes, t.lookup ((FileTree.pathOf t.cwd).join c.counterpartRoot) = .ok (f, .file bytes)
  outside : ¬d <+: f
  directory_free : ¬d <+: t.cwd
  file_free : ¬f <+: t.cwd

variable {c : Config} {w : World} {d f : Location}

theorem StopsHalfway.reachedRoots (h : c.StopsHalfway w.tree d f) :
    c.reachedRoots w.tree = [d, f] := by
  obtain ⟨bytes, hf⟩ := h.file
  have hd : Clean.reached? w.tree c.generatedRoot = some d :=
    Clean.reached?_eq_some_iff.2 ⟨_, h.directory⟩
  have hf : Clean.reached? w.tree c.counterpartRoot = some f :=
    Clean.reached?_eq_some_iff.2 ⟨_, hf⟩
  simp [Config.reachedRoots, roots, hd, hf]

/-- The directory is removed, and then the file is refused. -/
theorem StopsHalfway.runOn_clean (h : c.StopsHalfway w.tree d f) :
    (c.clean.runOn w).1 = .error (.notRemoved (FileTree.pathOf f) .notADirectory) ∧
      (c.clean.runOn w).2.tree = w.tree.erase d := by
  have hfree : ∀ l ∈ c.reachedRoots w.tree, ¬l <+: w.tree.cwd := by
    intro l hl
    rw [h.reachedRoots] at hl
    simp only [List.mem_cons, List.not_mem_nil, or_false] at hl
    rcases hl with rfl | rfl
    · exact h.directory_free
    · exact h.file_free
  rcases c.runOn_clean w with ⟨e, hbase, -⟩ | ⟨root, hroot, l, hl, hcwd, -⟩ | ⟨-, -, hrun⟩
  · obtain ⟨x, hx⟩ := h.found
    rw [hx] at hbase
    cases hbase
  · exact absurd hcwd (hfree l (List.mem_filterMap.2 ⟨root, hroot, hl⟩))
  · have hd : w.tree.get? d = some .directory := (FileTree.lookup_eq_ok_iff.1 h.directory).2
    obtain ⟨bytes, hlookup⟩ := h.file
    have hf : (w.tree.erase d).get? f = some (.file bytes) := by
      rw [FileTree.get?_erase h.outside]
      exact (FileTree.lookup_eq_ok_iff.1 hlookup).2
    have hforM : ([d, f] : List Location).forM Clean.remove =
        Clean.remove d >>= fun _ => Clean.remove f >>= fun _ => pure () := rfl
    rw [hrun, h.reachedRoots, hforM]
    simp [Session.runOn_bind, Clean.runOn_remove, hd, hf]

theorem StopsHalfway.ne_nil (h : c.StopsHalfway w.tree d f) : d ≠ [] :=
  fun hnil => h.directory_free (hnil ▸ List.nil_prefix)

theorem StopsHalfway.tree_ne (h : c.StopsHalfway w.tree d f) : w.tree.erase d ≠ w.tree := by
  intro he
  have hd : w.tree.get? d = some .directory := (FileTree.lookup_eq_ok_iff.1 h.directory).2
  have hgone := FileTree.get?_erase_of_isPrefix (t := w.tree) h.ne_nil (List.prefix_refl d)
  rw [he, hd] at hgone
  cases hgone

/-- Of two roots at most one comes before another one. -/
theorem eq_nil_or_of_reachedRoots {t : FileTree} {done rest : List Location}
    (h : c.reachedRoots t = done ++ f :: rest) :
    done = [] ∨ ∃ d, done = [d] ∧ Clean.reached? t c.generatedRoot = some d ∧
      Clean.reached? t c.counterpartRoot = some f := by
  simp only [reachedRoots, roots, List.filterMap_cons, List.filterMap_nil] at h
  cases done with
  | nil => exact .inl rfl
  | cons d done =>
    right
    cases hg : Clean.reached? t c.generatedRoot with
    | none => cases hc : Clean.reached? t c.counterpartRoot <;> simp [hg, hc] at h
    | some a =>
      cases hc : Clean.reached? t c.counterpartRoot with
      | none => simp [hg, hc] at h
      | some b =>
        simp only [hg, hc, List.cons_append, List.cons.injEq] at h
        obtain ⟨rfl, hlast⟩ := h
        obtain ⟨rfl, rfl, -⟩ : done = [] ∧ b = f ∧ rest = [] := by
          cases done with
          | nil => simpa [eq_comm] using hlast
          | cons k done => simp at hlast
        exact ⟨a, rfl, rfl, rfl⟩

/-- Nothing else makes a failing removal change the tree. -/
theorem exists_stopsHalfway (hfail : (c.clean.runOn w).1.isOk = false)
    (hchanged : (c.clean.runOn w).2.tree ≠ w.tree) : ∃ d f, c.StopsHalfway w.tree d f := by
  rcases c.runOn_clean w with ⟨e, -, hrun⟩ | ⟨root, -, l, -, -, hrun⟩ | ⟨hfound, hfree, hrun⟩
  · rw [hrun] at hchanged
    exact absurd rfl hchanged
  · rw [hrun] at hchanged
    exact absurd rfl hchanged
  rw [hrun] at hfail hchanged
  cases hres : ((c.reachedRoots w.tree).forM Clean.remove).runOn w with
  | mk r w' =>
  rw [hres] at hfail hchanged
  cases r with
  | ok _ => cases hfail
  | error err =>
  obtain ⟨done, f, rest, bytes, hsplit, hdone, hf⟩ := Clean.exists_of_forM_eq_error hres
  rcases eq_nil_or_of_reachedRoots hsplit with rfl | ⟨d, rfl, hd, hf'⟩
  · -- Nothing has been removed when the first one is refused.
    obtain ⟨-, rfl⟩ := Prod.mk.inj hdone
    exact absurd rfl hchanged
  have hmem : d ∈ c.reachedRoots w.tree ∧ f ∈ c.reachedRoots w.tree := by
    rw [hsplit]
    simp
  have hone : (Clean.remove d).runOn w = (.ok (), w') := by
    obtain ⟨u, v, hv, hrest⟩ := Session.runOn_bind_eq_ok_iff.1 hdone
    obtain ⟨-, rfl⟩ := Prod.mk.inj hrest
    exact hv
  obtain ⟨hdirectory, htree⟩ := Clean.directory_of_remove_eq_ok (Clean.get?_of_reached? hd) hone
  obtain ⟨x, hx⟩ := Clean.reached?_eq_some_iff.1 hd
  obtain ⟨y, hy⟩ := Clean.reached?_eq_some_iff.1 hf'
  have hne : d ≠ [] := fun hnil => hfree d hmem.1 (hnil ▸ List.nil_prefix)
  have houtside : ¬d <+: f := by
    intro hdf
    rw [htree, FileTree.get?_erase_of_isPrefix hne hdf] at hf
    cases hf
  rw [htree, FileTree.get?_erase houtside] at hf
  have hxd : some x = some .directory := (FileTree.lookup_eq_ok_iff.1 hx).2.symm.trans hdirectory
  have hyf : some y = some (.file bytes) := (FileTree.lookup_eq_ok_iff.1 hy).2.symm.trans hf
  obtain rfl := Option.some.inj hxd
  obtain rfl := Option.some.inj hyf
  exact ⟨d, f, hfound, hx, ⟨bytes, hy⟩, houtside, hfree d hmem.1, hfree f hmem.2⟩

/-- **All or nothing, but for one case.** A removal that fails leaves the tree as it was, unless it
stops halfway; then the directory is gone, with all that was in it. -/
theorem clean_keeps_tree_iff (c : Config) (w : World) :
    let t := w.tree
    let result := (c.clean.runOn w).1
    let u := (c.clean.runOn w).2.tree
    ((result.isOk = false → u = t) ↔ ¬∃ d f, c.StopsHalfway t d f) ∧
    ∀ d f, c.StopsHalfway t d f →
      result = .error (.notRemoved (FileTree.pathOf f) .notADirectory) ∧
      t.get? d = some .directory ∧
      ∀ l, u.get? l = if d <+: l then none else t.get? l := by
  intro t result u
  constructor
  · constructor
    · rintro hkeeps ⟨d, f, h⟩
      obtain ⟨hresult, htree⟩ := h.runOn_clean
      have hsame : u = t := hkeeps (by rw [show result = _ from hresult]; rfl)
      exact h.tree_ne (htree.symm.trans hsame)
    · intro hnot hfail
      by_contra hchanged
      exact hnot (exists_stopsHalfway hfail hchanged)
  · intro d f h
    obtain ⟨hresult, htree⟩ := h.runOn_clean
    have hu : u = t.erase d := htree
    refine ⟨hresult, (FileTree.lookup_eq_ok_iff.1 h.directory).2, fun l => ?_⟩
    rw [hu]
    split
    · rename_i hl
      exact FileTree.get?_erase_of_isPrefix h.ne_nil hl
    · rename_i hl
      exact FileTree.get?_erase hl

/-- Both roots are directories, and the second one is above the working directory. -/
theorem clean_keeps_tree_refused :
    let t : FileTree := ⟨[(["w"], .directory), (["w", "out"], .directory)], ["w"]⟩
    let c : Config := { generatedRoot := ⟨"out"⟩, counterpartRoot := ⟨".."⟩ }
    (c.clean.runOn { tree := t }).1.isOk = false ∧ (c.clean.runOn { tree := t }).2.tree = t := by
  intro t c
  have hfail : (c.clean.runOn { tree := t }).1.isOk = false := by decide +kernel
  refine ⟨hfail, (clean_keeps_tree_iff c { tree := t }).1.2 ?_ hfail⟩
  rintro ⟨d, f, h⟩
  obtain ⟨bytes, hf⟩ := h.file
  have hroot : (t.lookup ((FileTree.pathOf t.cwd).join c.counterpartRoot)).toOption =
      some ([], .directory) := by decide +kernel
  rw [hf] at hroot
  cases hroot

/-- The first root is a directory with a file in it, the second one a file beside it. -/
theorem clean_loses_first_root :
    let t : FileTree := ⟨[(["w"], .directory), (["w", "gen"], .directory),
      (["w", "gen", "a"], .file "x".toUTF8), (["w", "mirror"], .file "y".toUTF8)], ["w"]⟩
    let c : Config := { generatedRoot := ⟨"gen"⟩, counterpartRoot := ⟨"mirror"⟩ }
    let u := (c.clean.runOn { tree := t }).2.tree
    (c.clean.runOn { tree := t }).1 = .error (.notRemoved ⟨"/w/mirror"⟩ .notADirectory) ∧
      u = ⟨[(["w"], .directory), (["w", "mirror"], .file "y".toUTF8)], ["w"]⟩ ∧ u ≠ t := by
  exact ⟨by decide +kernel, by decide +kernel, by decide +kernel⟩

end Config

end EndpointStubs
