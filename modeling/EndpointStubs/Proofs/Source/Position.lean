import EndpointStubs.Proofs.Source.Files
import EndpointStubs.Proofs.Source.Walk

/-!
# Modules by position

The module of a file is read off the names that lead to it from a base, whatever the base is and
however its path is spelled. All that is scanned lies below a base by names, so the package of a
file is the root package and the module at its position.

    file.components = base.components ++ names.map .normal →
      (modulePath base file = segments ↔ IsModuleAt names segments)
    .file file is a visit of root → file.place cwd = base.place cwd ++ names
-/

namespace EndpointStubs

open EndpointStubs.Path (IsEntryName IsStem)

namespace Source

/-! ## The module at a position -/

/-- The module of the file that names lead to. -/
inductive IsModuleAt : List String → List String → Prop where
  /-- A file that holds the module of its directory. -/
  | directory {directories : List String} {name stem : String} (hstem : IsStem name stem)
    (own : stem ∈ ["lib", "main", "mod"]) : IsModuleAt (directories ++ [name]) directories
  | file {directories : List String} {name stem : String} (hstem : IsStem name stem)
    (other : stem ∉ ["lib", "main", "mod"]) :
    IsModuleAt (directories ++ [name]) (directories ++ [stem])

variable {names segments : List String} {base file root : Path}

theorem IsModuleAt.ne_empty (h : IsModuleAt names segments) (hn : ∀ n ∈ names, IsEntryName n) :
    ∀ s ∈ segments, s ≠ "" := by
  intro s hs
  cases h with
  | directory => exact (hn s (List.mem_append_left _ hs)).ne_empty
  | file hstem =>
    rcases List.mem_append.1 hs with hs | hs
    · exact (hn s (List.mem_append_left _ hs)).ne_empty
    · rw [List.mem_singleton.1 hs]
      exact hstem.ne_empty (hn _ (List.mem_append_right _ List.mem_cons_self)).ne_empty

/-! ## Module paths -/

theorem segmentNames_of_components (hn : ∀ n ∈ names, IsEntryName n)
    (h : file.components = names.map .normal) : segmentNames file = names := by
  have htext : file.components.map Path.Component.text = names := by
    rw [h, List.map_map]
    exact List.map_id' names
  rw [segmentNames, htext, List.filter_eq_self]
  intro n hmem
  obtain ⟨hempty, hcurrent, -⟩ := hn n hmem
  simp [hempty, hcurrent]

/-- A file below a base holds the module of its directories and its stem. -/
theorem modulePath_of_stem {directories : List String} {name stem : String}
    (hn : ∀ n ∈ directories ++ [name], IsEntryName n) (hstem : IsStem name stem)
    (h : file.components = base.components ++ (directories ++ [name]).map .normal) :
    modulePath base file =
      if stem ∈ ["lib", "main", "mod"] then directories else directories ++ [stem] := by
  obtain ⟨relative, hrelative, hr⟩ := Path.exists_stripPrefix? h
  rw [List.map_append, List.map_singleton] at hr
  obtain ⟨above, habove, hq⟩ := Path.exists_parent? hr
  have hdirectories : segmentNames above = directories :=
    segmentNames_of_components (fun n hm => hn n (List.mem_append_left _ hm)) hq
  have hname := hstem.fileStem?_eq (Path.fileName?_of_components hr)
  unfold modulePath
  simp only [hrelative, habove, hname, hdirectories, Option.getD_some, Option.map_some,
    List.contains_iff_mem, directoryStems]

/-- Names alone decide the module of a file that they lead to. -/
theorem modulePath_eq_iff (hne : names ≠ []) (hn : ∀ n ∈ names, IsEntryName n)
    (h : file.components = base.components ++ names.map .normal) :
    modulePath base file = segments ↔ IsModuleAt names segments := by
  constructor
  · rintro rfl
    obtain ⟨directories, name, rfl⟩ := (List.eq_nil_or_concat' names).resolve_left hne
    obtain ⟨stem, hstem⟩ := Path.exists_isStem name
    rw [modulePath_of_stem hn hstem h]
    split
    · exact .directory hstem ‹_›
    · exact .file hstem ‹_›
  · intro hm
    cases hm with
    | directory hstem own => rw [modulePath_of_stem hn hstem h, if_pos own]
    | file hstem other => rw [modulePath_of_stem hn hstem h, if_neg other]

/-! ## Files that are visited -/

variable {t : FileTree} {l : Location} {p : Path}

theorem components_pathBelow {rel : Location} (hn : ∀ n ∈ rel, IsEntryName n) :
    (pathBelow p rel).components = p.components ++ rel.map .normal := by
  induction rel generalizing p with
  | nil => simp [pathBelow]
  | cons n rel ih =>
    obtain ⟨hname, hrest⟩ := List.forall_mem_cons.1 hn
    have hjoin : (p.join ⟨n⟩).components = p.components ++ [.normal n] := by
      have hone : ∀ m ∈ [n], IsEntryName m := List.forall_mem_singleton.2 hname
      have h := Path.components_join_names p hone
      rwa [show Text.joinStrings "/" [n] = n from String.ofList_toList] at h
    calc (pathBelow p (n :: rel)).components = (pathBelow (p.join ⟨n⟩) rel).components := rfl
      _ = p.components ++ [.normal n] ++ rel.map .normal := by rw [ih hrest, hjoin]
      _ = p.components ++ (n :: rel).map .normal := by rw [List.append_assoc]; rfl

/-- A walk only finds files below its directory. -/
theorem exists_of_mem_walk (ht : t.Sound) (h : .file file ∈ walk t l p) :
    ∃ rel bytes, rel ≠ [] ∧ file = pathBelow p rel ∧ t.get? (l ++ rel) = some (.file bytes) := by
  induction hc : t.countBelow l using Nat.strongRecOn generalizing l p with
  | ind count ih =>
    cases hp : FileTree.checkText p with
    | error f =>
      rw [walk, hp] at h
      simp at h
    | ok u =>
      rw [walk_eq_flatMap t l hp, List.mem_flatMap] at h
      obtain ⟨⟨n, e⟩, hmem, h⟩ := h
      have hget := (FileTree.mem_children_iff ht).1 hmem
      cases e with
      | file bytes =>
        simp only at h
        split at h
        · obtain rfl : file = p.join ⟨n⟩ := by simpa using h
          exact ⟨[n], bytes, by simp, rfl, hget⟩
        · cases h
      | directory =>
        simp only at h
        split at h
        · cases h
        · obtain ⟨rel, bytes, -, rfl, hbelow⟩ := ih _ (hc ▸ FileTree.countBelow_lt hmem) h rfl
          rw [List.append_assoc] at hbelow
          exact ⟨n :: rel, bytes, by simp, rfl, hbelow⟩

/-- Only a name can lead to a file. -/
theorem exists_name_of_file (ht : t.Sound) {bytes : ByteArray}
    (h : t.lookup p = .ok (l, .file bytes)) : ∃ cs n, p.components = cs ++ [.normal n] := by
  obtain ⟨hr, hl⟩ := FileTree.lookup_eq_ok_iff.1 h
  rw [FileTree.eq_place_of_resolve hr, Path.place] at hl
  rcases List.eq_nil_or_concat' p.components with hnil | ⟨cs, c, hc⟩
  · rw [hnil, Path.walk_nil, ht.cwd] at hl
    cases hl
  · have habove : t.get? (Path.walk t.cwd cs) = some .directory := by
      by_cases hcs : cs = []
      · rw [hcs]
        exact ht.cwd
      · exact FileTree.directory_of_mem_way hr (Path.mem_passed.2 ⟨cs, [c], hc, hcs, by simp, rfl⟩)
    rw [hc, Path.walk_append] at hl
    cases c with
    | normal n => exact ⟨cs, n, hc⟩
    | root => cases hl
    | current =>
      have hstay : Path.walk (Path.walk t.cwd cs) [.current] = Path.walk t.cwd cs := rfl
      rw [hstay, habove] at hl
      cases hl
    | parent =>
      have hup : t.get? (Path.walk t.cwd cs).dropLast = some .directory := by
        by_cases hroot : Path.walk t.cwd cs = []
        · rw [hroot]
          rfl
        · exact ht.isTree _ _ hroot habove
      have hdrop : Path.walk (Path.walk t.cwd cs) [.parent] = (Path.walk t.cwd cs).dropLast := rfl
      rw [hdrop, hup] at hl
      cases hl

/-- Names lead from the base of the modules to every file that is visited. -/
theorem exists_names_of_visit (ht : t.Sound) {vs : List Visit} (hv : visits t root = .ok (base, vs))
    (hf : .file file ∈ vs) :
    ∃ names bytes, names ≠ [] ∧ (∀ n ∈ names, IsEntryName n) ∧
      file.components = base.components ++ names.map .normal ∧
      t.get? (file.place t.cwd) = some (.file bytes) := by
  unfold visits at hv
  split at hv
  · rename_i l bytes hroot
    obtain ⟨rfl, rfl⟩ := Prod.mk.inj (Except.ok.inj hv)
    obtain rfl : file = root := by simpa using hf
    obtain ⟨cs, n, hc⟩ := exists_name_of_file ht hroot
    obtain ⟨q, hq, rfl⟩ := Path.exists_parent? hc
    obtain ⟨hr, hl⟩ := FileTree.lookup_eq_ok_iff.1 hroot
    have hn : IsEntryName n := Path.isEntryName_of_mem_components (p := file) (by simp [hc])
    rw [FileTree.eq_place_of_resolve hr] at hl
    rw [hq]
    exact ⟨[n], bytes, by simp, by simpa using hn, hc, hl⟩
  · rename_i l hroot
    obtain ⟨rfl, rfl⟩ := Prod.mk.inj (Except.ok.inj hv)
    obtain ⟨rel, bytes, hne, rfl, hget⟩ := exists_of_mem_walk ht hf
    have hn : ∀ n ∈ rel, IsEntryName n := fun n hm =>
      (ht.names _ _ hget n (List.mem_append_right _ hm)).isEntryName
    have hc := components_pathBelow (p := root) hn
    refine ⟨rel, bytes, hne, hn, hc, ?_⟩
    rw [FileTree.eq_place_of_resolve (FileTree.lookup_eq_ok_iff.1 hroot).1] at hget
    rwa [Path.place, hc, Path.walk_append, Path.walk_normal]
  · cases hv

/-- **The module of a file is its position.** What is joined to a base by names has the module at
these names, whatever the base, and no segment of it is empty. A file that is visited lies below the
base by names, and its package goes on from the root package by the module at these names. -/
theorem modulePath_is_position :
    (∀ names : List String, names ≠ [] → (∀ n ∈ names, IsEntryName n) → ∀ segments,
      (∀ base : Path, modulePath base (base.join ⟨Text.joinStrings "/" names⟩) = segments ↔
        IsModuleAt names segments) ∧
      (IsModuleAt names segments → ∀ s ∈ segments, s ≠ "")) ∧
    ∀ (t : FileTree) (root base : Path) (vs : List Visit), t.Sound →
      visits t root = .ok (base, vs) → ∀ file, .file file ∈ vs → ∃ names bytes segments,
        file.place t.cwd = base.place t.cwd ++ names ∧
        t.get? (file.place t.cwd) = some (.file bytes) ∧ IsModuleAt names segments ∧
        ∀ rootPackage, packageOf rootPackage base file = rootSegments rootPackage ++ segments := by
  constructor
  · intro names hne hn segments
    refine ⟨fun base => ?_, fun h => h.ne_empty hn⟩
    exact modulePath_eq_iff hne hn (Path.components_join_names base hn)
  · intro t root base vs ht hv file hf
    obtain ⟨names, bytes, hne, hn, hc, hget⟩ := exists_names_of_visit ht hv hf
    refine ⟨names, bytes, modulePath base file, ?_, hget, (modulePath_eq_iff hne hn hc).1 rfl,
      fun rootPackage => rfl⟩
    rw [Path.place, hc, Path.walk_append, Path.walk_normal]
    rfl

/-- A directory may be called `lib`, and a name with a dot in front is cut only at another dot;
slashes and a leading `.` in the spelling of the source count for nothing. -/
theorem modulePath_is_position_in_lib :
    let names := ["lib", ".mod.rs"]
    let root : Path := ⟨"./src//"⟩
    let file : Path := ⟨"./src//lib/a.b.rs"⟩
    let t : FileTree := ⟨[(["w"], .directory), (["w", "src"], .directory),
      (["w", "src", "lib"], .directory),
      (["w", "src", "lib", "a.b.rs"], .file "struct S;".toUTF8)], ["w"]⟩
    (names ≠ [] ∧ (∀ n ∈ names, IsEntryName n) ∧ IsModuleAt names ["lib", ".mod"] ∧
      (∀ base : Path, modulePath base (base.join ⟨"lib/.mod.rs"⟩) = ["lib", ".mod"])) ∧
    t.Sound ∧ visits t root = .ok (root, [.file file]) ∧ ∃ names bytes segments,
      file.place t.cwd = root.place t.cwd ++ names ∧
      t.get? (file.place t.cwd) = some (.file bytes) ∧ IsModuleAt names segments ∧
      ∀ rootPackage, packageOf rootPackage root file = rootSegments rootPackage ++ segments := by
  intro names root file t
  have hne : names ≠ [] := by decide
  have hn : ∀ n ∈ names, IsEntryName n := by decide +kernel
  have hpath : Text.joinStrings "/" names = "lib/.mod.rs" := by decide +kernel
  have hiff := (modulePath_is_position.1 names hne hn ["lib", ".mod"]).1
  rw [hpath] at hiff
  -- One base is enough to know the module for all of them.
  have hat : IsModuleAt names ["lib", ".mod"] := (hiff ⟨""⟩).1 (by decide +kernel)
  have ht : t.Sound := by decide +kernel
  have hvisits : visits t root = .ok (root, [.file file]) := by decide +kernel
  refine ⟨⟨hne, hn, hat, fun base => (hiff base).2 hat⟩, ht, hvisits, ?_⟩
  exact modulePath_is_position.2 t root root _ ht hvisits file List.mem_cons_self

end Source

end EndpointStubs
