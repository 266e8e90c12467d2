import EndpointStubs.Proofs.Clean.Halfway
import EndpointStubs.Proofs.Clean.Roots

/-!
# Overlooked roots

A root is looked up under its path from the working directory. If that path is too long nothing is
found, although the root leads somewhere: the root is taken for one that is not there. So removing
the output keeps what it promises unless such a root is there and nothing else stops the removal.

    Clean.reached? t root = some l ↔ Clean.Short t root ∧ Clean.LeadsTo t root l
    c.RemovesRoots t r u ↔ ¬∃ root k, c.Overlooks t root k      for c.clean, run on t, with r and u
-/

namespace EndpointStubs

namespace Clean

variable {t u : FileTree} {root : Path} {l : Location}

/-- What a root itself leads to from the working directory, however long its path is. The empty root
is the working directory. -/
def LeadsTo (t : FileTree) (root : Path) (l : Location) : Prop :=
  t.follow (t.start root) root.body = .ok l ∧ t.get? l ≠ none

theorem leadsTo_of_lookup {e : Entry} (h : t.lookup root = .ok (l, e)) : LeadsTo t root l := by
  obtain ⟨hr, he⟩ := FileTree.lookup_eq_ok_iff.1 h
  exact ⟨(FileTree.resolve_eq_ok_iff.1 hr).2, by simp [he]⟩

/-- What a root leads to in a smaller tree, it leads to in a larger one. -/
theorem LeadsTo.within (h : LeadsTo u root l) (hw : u.Within t) : LeadsTo t root l :=
  ⟨hw.start root ▸ hw.follow h.1, hw.get?_ne_none h.2⟩

/-- Only the length of its path keeps a root from being reached. -/
theorem reached?_iff (ht : t.Sound) :
    reached? t root = some l ↔ Short t root ∧ LeadsTo t root l := by
  constructor
  · intro h
    refine ⟨short_of_reached? h, ?_, get?_of_reached? h⟩
    obtain ⟨e, he⟩ := reached?_eq_some_iff.1 h
    rw [← ht.follow_base]
    exact (FileTree.resolve_eq_ok_iff.1 (FileTree.lookup_eq_ok_iff.1 he).1).2
  · rintro ⟨hshort, hfollow, hthere⟩
    obtain ⟨e, he⟩ := Option.ne_none_iff_exists'.1 hthere
    rw [← ht.follow_base] at hfollow
    exact reached?_eq_some_iff.2
      ⟨e, ht.lookup_of_follow hfollow he (FileTree.base_text_ne t root) hshort⟩

end Clean

namespace Config

/-- One of the roots leads to the location. -/
def RootAt (c : Config) (t : FileTree) (k : Location) : Prop :=
  ∃ root ∈ c.roots, Clean.LeadsTo t root k

/-- What removing the output promises for a tree `t` that it turns into `u`, whether or not it
succeeds. -/
structure RemovesRoots (c : Config) (t : FileTree) (r : Except CleanError Unit) (u : FileTree) :
    Prop where
  cwd : u.cwd = t.cwd
  /-- The working directory, all that is above it and all that is in neither root stays. -/
  keeps : ∀ l, l <+: t.cwd ∨ (∀ k, c.RootAt t k → ¬k <+: l) → u.get? l = t.get? l
  /-- A root that is or holds the working directory stops it before anything is removed. -/
  refuses : (∃ k, c.RootAt t k ∧ k <+: t.cwd) → r.isOk = false ∧ u = t
  /-- After a success neither root is there any more. -/
  free : r = .ok () → ∀ k, ¬c.RootAt u k
  /-- After a success the subtrees at both roots are gone, and nothing else. -/
  gone : r = .ok () →
    ∀ l e, u.get? l = some e ↔ t.get? l = some e ∧ ∀ k, c.RootAt t k → ¬k <+: l

/-- The root leads to `k`, but its path from the working directory is too long, while that of the
working directory is not; and a root that is found is a directory that can be removed, and `k` is
not in it. -/
structure Overlooks (c : Config) (t : FileTree) (root : Path) (k : Location) : Prop where
  found : (FileTree.pathOf t.cwd).text.utf8ByteSize < FileTree.maxPath
  mem : root ∈ c.roots
  leadsTo : Clean.LeadsTo t root k
  long : ¬Clean.Short t root
  others : ∀ other ∈ c.roots, Clean.Short t other → ∀ l, Clean.LeadsTo t other l →
    t.get? l = some .directory ∧ ¬l <+: t.cwd ∧ ¬l <+: k

variable {c : Config} {t u : FileTree} {r : Except CleanError Unit} {root : Path} {k l : Location}

/-- The reached locations are those that short roots lead to. -/
theorem mem_reachedRoots_iff (ht : t.Sound) :
    l ∈ c.reachedRoots t ↔ ∃ root ∈ c.roots, Clean.Short t root ∧ Clean.LeadsTo t root l := by
  simp only [reachedRoots, List.mem_filterMap, Clean.reached?_iff ht]

theorem rootAt_of_mem_reachedRoots (ht : t.Sound) (h : l ∈ c.reachedRoots t) : c.RootAt t l := by
  obtain ⟨root, hroot, -, hl⟩ := (mem_reachedRoots_iff ht).1 h
  exact ⟨root, hroot, hl⟩

/-- If one of two roots is too long, at most one location is reached. -/
theorem eq_of_mem_reachedRoots (hroot : root ∈ c.roots) (hlong : ¬Clean.Short t root)
    (hk : k ∈ c.reachedRoots t) (hl : l ∈ c.reachedRoots t) : k = l := by
  obtain ⟨a, ha, hka⟩ := List.mem_filterMap.1 hk
  obtain ⟨b, hb, hlb⟩ := List.mem_filterMap.1 hl
  have hne {x : Path} {m : Location} (hx : Clean.reached? t x = some m) : x ≠ root := by
    rintro rfl
    exact hlong (Clean.short_of_reached? hx)
  have hab : a = b := by
    have hane := hne hka
    have hbne := hne hlb
    simp only [roots, List.mem_cons, List.not_mem_nil, or_false] at hroot ha hb
    grind
  rw [hab, hlb] at hka
  exact (Option.some.inj hka).symm

/-! ## What stays -/

/-- Nothing stops a removal that overlooks a root, and what the root leads to stays. -/
theorem Overlooks.stays (ho : c.Overlooks t root k) (ht : t.Sound) (h : c.Cleaned t r u) :
    r = .ok () ∧ u.get? k = t.get? k := by
  have hother : ∀ l ∈ c.reachedRoots t,
      t.get? l = some .directory ∧ ¬l <+: t.cwd ∧ ¬l <+: k := by
    intro l hl
    obtain ⟨other, hmem, hshort, hleads⟩ := (mem_reachedRoots_iff ht).1 hl
    exact ho.others other hmem hshort l hleads
  cases h with
  | unresolved hf =>
    have hfound := ht.lookup_of_directory (FileTree.components_pathOf ht.cwd_names) ho.found ht.cwd
    rw [hf] at hfound
    cases hfound
  | refused hmem hreached hcwd =>
    exact absurd hcwd (hother _ (List.mem_filterMap.2 ⟨_, hmem, hreached⟩)).2.1
  | removed _ _ hr =>
    cases hr with
    | all hw _ => exact ⟨rfl, hw.get?_of_apart fun l hl => (hother l hl).2.2⟩
    | refused hls _ hfile _ =>
      have hdir := (hother _ (hls ▸ List.mem_append_right _ List.mem_cons_self)).1
      rw [hfile] at hdir
      cases hdir

/-- If no root is overlooked, what a root leads to is in a reached root after a success. -/
theorem Cleaned.exists_above (h : c.Cleaned t (.ok ()) u) (ht : t.Sound)
    (hnot : ¬∃ root k, c.Overlooks t root k) (hk : c.RootAt t k) :
    ∃ l ∈ c.reachedRoots t, l <+: k := by
  obtain ⟨root, hroot, hleads⟩ := hk
  by_cases hshort : Clean.Short t root
  · exact ⟨k, (mem_reachedRoots_iff ht).2 ⟨root, hroot, hshort, hleads⟩, List.prefix_refl k⟩
  · by_contra hnone
    refine hnot ⟨root, k, h.base_short, hroot, hleads, hshort, fun other hother hs l hl => ?_⟩
    have hmem := (mem_reachedRoots_iff ht).2 ⟨other, hother, hs, hl⟩
    cases h with
    | removed _ hapart hr =>
    cases hr with
    | all _ hdirs =>
      refine ⟨?_, hapart l hmem, fun hlk => hnone ⟨l, hmem, hlk⟩⟩
      obtain ⟨d, hd, -, hdir⟩ := hdirs l hmem
      rwa [eq_of_mem_reachedRoots hroot hshort hmem hd]

/-- Only a removal that finds both roots stops halfway. -/
theorem StopsHalfway.short {d f : Location} (h : c.StopsHalfway t d f) :
    ∀ root ∈ c.roots, Clean.Short t root := by
  intro root hroot
  obtain ⟨bytes, hf⟩ := h.file
  simp only [roots, List.mem_cons, List.not_mem_nil, or_false] at hroot
  rcases hroot with rfl | rfl
  · exact Clean.short_of_reached? (Clean.reached?_eq_some_iff.2 ⟨_, h.directory⟩)
  · exact Clean.short_of_reached? (Clean.reached?_eq_some_iff.2 ⟨_, hf⟩)

/-- A root that leads to the working directory or above it is not removed, and then nothing is. -/
theorem clean_refuses {w : World} (ht : w.tree.Sound)
    (hnot : ¬∃ root k, c.Overlooks w.tree root k) (hk : c.RootAt w.tree k)
    (hcwd : k <+: w.tree.cwd) :
    (c.clean.runOn w).1.isOk = false ∧ (c.clean.runOn w).2.tree = w.tree := by
  have h := cleaned_clean c w
  have hfail : (c.clean.runOn w).1.isOk = false := by
    rw [← Bool.not_eq_true]
    intro hok
    obtain ⟨⟨⟩, hres⟩ := Outcome.isOk_iff.1 hok
    obtain ⟨l, hl, hlk⟩ := (hres ▸ h).exists_above ht hnot hk
    have := (h.of_holds hl (hlk.trans hcwd)).1
    rw [hok] at this
    cases this
  refine ⟨hfail, ?_⟩
  by_contra hchanged
  -- The removal has stopped halfway, so the root is reached after all.
  obtain ⟨d, f, hhalf⟩ := exists_stopsHalfway hfail hchanged
  obtain ⟨root, hroot, hleads⟩ := hk
  have hmem := (mem_reachedRoots_iff ht).2 ⟨root, hroot, hhalf.short root hroot, hleads⟩
  exact hchanged (h.of_holds hmem hcwd).2

/-! ## What is promised -/

/-- What is outside of both roots stays, and so does the way to the working directory. -/
theorem Cleaned.keeps (h : c.Cleaned t r u) (ht : t.Sound)
    (hl : l <+: t.cwd ∨ ∀ k, c.RootAt t k → ¬k <+: l) : u.get? l = t.get? l := by
  obtain ⟨done, hdone, hw, -⟩ := h.without
  refine hw.get?_of_apart fun k hk hkl => ?_
  rcases hl with hcwd | hout
  · exact (hdone k hk).2 (hkl.trans hcwd)
  · exact hout k (rootAt_of_mem_reachedRoots ht (hdone k hk).1) hkl

theorem Overlooks.not_removesRoots (ho : c.Overlooks t root k) (ht : t.Sound)
    (h : c.Cleaned t r u) : ¬c.RemovesRoots t r u := by
  intro hpromise
  obtain ⟨hok, hstays⟩ := ho.stays ht h
  obtain ⟨e, he⟩ := Option.ne_none_iff_exists'.1 ho.leadsTo.2
  exact ((hpromise.gone hok k e).1 (hstays.trans he)).2 k ⟨root, ho.mem, ho.leadsTo⟩
    (List.prefix_refl k)

theorem removesRoots_of_not_overlooks {w : World} (ht : w.tree.Sound)
    (hnot : ¬∃ root k, c.Overlooks w.tree root k) :
    c.RemovesRoots w.tree (c.clean.runOn w).1 (c.clean.runOn w).2.tree := by
  have h : c.Cleaned w.tree (c.clean.runOn w).1 (c.clean.runOn w).2.tree := cleaned_clean c w
  have hall (hok : (c.clean.runOn w).1 = .ok ()) {k : Location} (hk : c.RootAt w.tree k) :
      ∃ l ∈ c.reachedRoots w.tree, l <+: k := (hok ▸ h).exists_above ht hnot hk
  obtain ⟨done, -, hw, hdone⟩ := h.without
  refine ⟨hw.cwd, fun l hl => h.keeps ht hl, fun ⟨k, hk, hcwd⟩ => clean_refuses ht hnot hk hcwd,
    fun hok k hk => ?_, fun hok l e => ?_⟩
  · obtain ⟨root, hroot, hleads⟩ := hk
    obtain ⟨l, hl, hlk⟩ := hall hok ⟨root, hroot, hleads.within hw.within⟩
    exact hleads.2 (hw.get?_eq_none (hdone hok ▸ hl) hlk)
  · rw [hw.get?_iff, hdone hok]
    refine and_congr_right fun _ => ⟨fun hapart k hk hkl => ?_, fun hapart k hk => ?_⟩
    · obtain ⟨m, hm, hmk⟩ := hall hok hk
      exact hapart m hm (hmk.trans hkl)
    · exact hapart k (rootAt_of_mem_reachedRoots ht hk)

/-- **The roots and nothing else, unless one is overlooked.** However removing the output ends, it
keeps what it promises exactly if no root is overlooked, and so it does if the paths of both roots
are not too long. What is outside of the roots stays in any case; and what an overlooked root leads
to stays, too, although the removal succeeds. -/
theorem clean_removes_roots_iff (c : Config) (w : World) (ht : w.tree.Sound) :
    let t := w.tree
    let result := (c.clean.runOn w).1
    let u := (c.clean.runOn w).2.tree
    (c.RemovesRoots t result u ↔ ¬∃ root k, c.Overlooks t root k) ∧
    ((∀ root ∈ c.roots, Clean.Short t root) → c.RemovesRoots t result u) ∧
    (∀ l, l <+: t.cwd ∨ (∀ k, c.RootAt t k → ¬k <+: l) → u.get? l = t.get? l) ∧
    ∀ root k, c.Overlooks t root k → result = .ok () ∧ u.get? k = t.get? k := by
  intro t result u
  have h : c.Cleaned t result u := cleaned_clean c w
  refine ⟨⟨?_, removesRoots_of_not_overlooks ht⟩, fun hshort => ?_, fun l hl => h.keeps ht hl,
    fun root k ho => ho.stays ht h⟩
  · rintro hpromise ⟨root, k, ho⟩
    exact ho.not_removesRoots ht h hpromise
  · refine removesRoots_of_not_overlooks ht ?_
    rintro ⟨root, k, ho⟩
    exact ho.long (hshort root ho.mem)

/-- A root below the other one, in either order; then nothing is left of both. -/
theorem clean_removes_nested :
    let t : FileTree := ⟨[(["w"], .directory), (["w", "out"], .directory),
      (["w", "out", "in"], .directory), (["w", "out", "in", "f"], .file "".toUTF8),
      (["w", "keep"], .file "".toUTF8)], ["w"]⟩
    let c : Config := { generatedRoot := ⟨"out/./in"⟩, counterpartRoot := ⟨"/w/out"⟩ }
    (c.RootAt t ["w", "out", "in"] ∧ c.RootAt t ["w", "out"]) ∧
      (c.clean.runOn { tree := t }).1 = .ok () ∧
      c.RemovesRoots t (.ok ()) (c.clean.runOn { tree := t }).2.tree ∧
      ∀ l e, (c.clean.runOn { tree := t }).2.tree.get? l = some e ↔
        t.get? l = some e ∧ ¬["w", "out"] <+: l := by
  intro t c
  have ht : t.Sound := by decide
  have hroots : c.reachedRoots t = [["w", "out", "in"], ["w", "out"]] := by decide +kernel
  have hshort : ∀ root ∈ c.roots, Clean.Short t root := by decide
  have hok : (c.clean.runOn { tree := t }).1 = .ok () := by decide +kernel
  have hpromise := (clean_removes_roots_iff c { tree := t } ht).2.1 hshort
  rw [hok] at hpromise
  have hat : ∀ k, c.RootAt t k ↔ k = ["w", "out", "in"] ∨ k = ["w", "out"] := by
    intro k
    rw [← List.mem_pair, ← hroots, mem_reachedRoots_iff ht]
    exact exists_congr fun root => and_congr_right fun h => (and_iff_right (hshort root h)).symm
  refine ⟨⟨(hat _).2 (.inl rfl), (hat _).2 (.inr rfl)⟩, hok, hpromise, fun l e => ?_⟩
  rw [hpromise.gone rfl l e]
  refine and_congr_right fun _ => ⟨fun h => h _ ((hat _).2 (.inr rfl)), fun h k hk hkl => h ?_⟩
  rcases (hat k).1 hk with rfl | rfl
  · exact (List.prefix_append ["w", "out"] ["in"]).trans hkl
  · exact hkl

/-! ## A root that is too long -/

/-- `out` with slashes at its end, which make it longer and nothing else. -/
def padded (n : Nat) : Path := ⟨"out" ++ String.ofList (List.replicate (n + 1) '/')⟩

theorem head_padded (n : Nat) :
    (padded n).head = .none ∧ Path.bodyComponents (padded n).body = [.normal "out"] :=
  Path.head_bodyComponents_slashed "out" n (by decide) (by decide)

theorem components_padded (n : Nat) : (padded n).components = [.normal "out"] := by
  rw [Path.components_eq, (head_padded n).1, (head_padded n).2]
  rfl

/-- Seen from the working directory, a padded root can be too long. -/
theorem not_short_padded {n : Nat} (hn : 4081 ≤ n) {t : FileTree} (ht : t.cwd = ["workspace"]) :
    ¬Clean.Short t (padded n) := by
  have hbase : FileTree.pathOf t.cwd = ⟨"/workspace"⟩ := by
    rw [ht]
    decide
  have hjoin : (Path.mk "/workspace").join (padded n) =
      ⟨"/workspace" ++ "/" ++ (padded n).text⟩ := by
    have habs : (padded n).isAbsolute = false := by
      simp [Path.isAbsolute, (head_padded n).1]
    unfold Path.join
    rw [habs]
    simp
  have hsize : ("/workspace" ++ "/" ++ "out").utf8ByteSize = 14 := by decide
  rw [Clean.Short, hbase, hjoin, padded, FileTree.maxPath, ← String.append_assoc,
    String.utf8ByteSize_append, hsize, Path.size_slashes]
  omega

/-- The root itself is found, as its own text is not too long. -/
theorem lookup_padded {n : Nat} (hn : n < 4092) {t : FileTree} (ht : t.cwd = ["workspace"])
    (hcwd : t.get? ["workspace"] = some .directory)
    (hout : t.get? ["workspace", "out"] = some .directory) :
    t.lookup (padded n) = .ok (["workspace", "out"], .directory) := by
  have hchecked : FileTree.checkText (padded n) = .ok () := by
    have hsize : "out".utf8ByteSize = 3 := by decide
    refine FileTree.checkText_eq_ok_iff.2 ⟨?_, ?_, ?_⟩
    · simp [padded]
    · simp [padded]
    · rw [padded, String.utf8ByteSize_append, Path.size_slashes, hsize, FileTree.maxPath]
      omega
  obtain ⟨hhead, hbody⟩ := head_padded n
  have hstart : t.start (padded n) = ["workspace"] := by
    simp [FileTree.start, Path.isAbsolute, hhead, ht]
  have hfollow := FileTree.follow_of_directories (t := t) (l := ["workspace"])
    (b := (padded n).body) (fun m hm => ?_) fun x y hxy => ?_
  · rw [hbody] at hfollow
    have hresolve : t.resolve (padded n) = .ok ["workspace", "out"] :=
      FileTree.resolve_eq_ok_iff.2 ⟨hchecked, by rw [hstart]; exact hfollow⟩
    exact FileTree.lookup_eq_ok_iff.2 ⟨hresolve, hout⟩
  · rw [hbody] at hm
    obtain rfl := Path.Component.normal.inj (List.mem_singleton.1 hm)
    decide
  · rw [hbody] at hxy
    cases x with
    | nil => exact hcwd
    | cons c x =>
      obtain ⟨rfl, hx⟩ := List.cons.inj hxy
      obtain ⟨rfl, -⟩ := List.append_eq_nil_iff.1 hx.symm
      exact hout

/-- The root has 4086 bytes, and a file in it; seen from the working directory it has 4097. -/
theorem clean_overlooks_padded_root :
    let t : FileTree := ⟨[(["workspace"], .directory), (["workspace", "out"], .directory),
      (["workspace", "out", "f"], .file "x".toUTF8)], ["workspace"]⟩
    let c : Config := { generatedRoot := padded 4082, counterpartRoot := ⟨"mirror"⟩ }
    let result := (c.clean.runOn { tree := t }).1
    let u := (c.clean.runOn { tree := t }).2.tree
    t.Sound ∧ t.lookup c.generatedRoot = .ok (["workspace", "out"], .directory) ∧
      result = .ok () ∧ u.lookup c.generatedRoot = .ok (["workspace", "out"], .directory) ∧
      ¬c.RemovesRoots t result u := by
  intro t c result u
  have ht : t.Sound := by decide
  have hlookup : t.lookup c.generatedRoot = .ok (["workspace", "out"], .directory) :=
    lookup_padded (by decide) rfl rfl rfl
  have hlong : ¬Clean.Short t c.generatedRoot := not_short_padded (by decide) rfl
  have hmirror : ∀ l, ¬Clean.LeadsTo t c.counterpartRoot l := by
    rintro l ⟨hfollow, hthere⟩
    obtain rfl : l = ["workspace", "mirror"] :=
      Except.ok.inj (hfollow.symm.trans (by decide))
    exact hthere rfl
  have ho : c.Overlooks t c.generatedRoot ["workspace", "out"] := by
    refine ⟨by decide, by simp [roots], Clean.leadsTo_of_lookup hlookup, hlong, ?_⟩
    intro other hother hshort l hl
    simp only [roots, List.mem_cons, List.not_mem_nil, or_false] at hother
    rcases hother with rfl | rfl
    · exact absurd hshort hlong
    · exact absurd hl (hmirror l)
  have h : c.Cleaned t result u := cleaned_clean c { tree := t }
  obtain ⟨hok, hstays⟩ := ho.stays ht h
  obtain ⟨_, -, hw, -⟩ := h.without
  have hcwd : u.get? ["workspace"] = some .directory :=
    h.keeps ht (.inl (List.prefix_refl _))
  have hu : u.lookup c.generatedRoot = .ok (["workspace", "out"], .directory) :=
    lookup_padded (by decide) hw.cwd hcwd hstays
  exact ⟨ht, hlookup, hok, hu, ho.not_removesRoots ht h⟩

end Config

end EndpointStubs
