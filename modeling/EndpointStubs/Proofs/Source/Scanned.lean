import EndpointStubs.Proofs.Source.Files
import EndpointStubs.Proofs.Source.Walk

/-!
# Scanning a directory

The recursive walk of a directory is a flat list of stops: the source files below it that are in no
skipped directory, and the directories on the way, which have to be opened. They stand in the order
of their names, compared one by one as bytes. A scan gives what the stops give, in that order, or
the error of the first stop that fails.

    (scan root …).1 = .ok r    ↔ every stop passes, and r is the round of what they give
    (scan root …).1 = .error e ↔ e is the error of a stop, and all stops before it pass
-/

namespace EndpointStubs.Source

/-- A stop of a walk of `root` at which the walk goes on, with what is declared there: a directory
whose path is not too long, or a file that can be scanned. -/
inductive Passes (t : FileTree) (rootPackage : Option String) (root : Path) :
    Location × Entry → List Declaration → Prop where
  | directory {rel : Location}
    (short : (pathBelow root rel).text.utf8ByteSize < FileTree.maxPath) :
    Passes t rootPackage root (rel, .directory) []
  | file {rel : Location} {bytes : ByteArray} {ds : List Declaration}
    (scans : Scans t (packageOf rootPackage root (pathBelow root rel)) (pathBelow root rel) ds) :
    Passes t rootPackage root (rel, .file bytes) ds

/-- The result of scanning the directory `root` at `l`, told by a list of stops. -/
inductive ScansInOrder (t : FileTree) (rootPackage : Option String) (root : Path) (l : Location)
    (result : Except SourceError Round) : Prop where
  | intro (ss : List (Location × Entry))
    (files : ∀ rel bytes, (rel, .file bytes) ∈ ss ↔ t.get? (l ++ rel) = some (.file bytes) ∧
      (∀ d ∈ rel.dropLast, isSkipped d = false) ∧ ∃ n, rel.getLast? = some n ∧ isSourceName n)
    (directories : ∀ rel, (rel, .directory) ∈ ss ↔ rel ≠ [] ∧
      t.get? (l ++ rel) = some .directory ∧ ∀ d ∈ rel, isSkipped d = false)
    (ascending : ss.Pairwise fun a b => a.1.map Text.bytes < b.1.map Text.bytes)
    (succeeds : ∀ r, result = .ok r ↔ ∃ dss,
      List.Forall₂ (Passes t rootPackage root) ss dss ∧ r = Round.ofDeclarations dss.flatten)
    (fails : ∀ e, result = .error e ↔ ∃ before s after, ss = before ++ s :: after ∧
      (∀ b ∈ before, ∃ ds, Passes t rootPackage root b ds) ∧
      atStop t rootPackage root root s = .error e) :
    ScansInOrder t rootPackage root l result

variable {t : FileTree} {rootPackage : Option String} {root : Path} {l : Location}

/-! ## Stops that pass -/

/-- The stops are the entries below that no skipped directory hides. -/
theorem mem_stops_iff (ht : t.Sound) {y : Location × Entry} :
    y ∈ stops t l ↔ (y.1 ≠ [] ∧ t.get? (l ++ y.1) = some y.2) ∧ isStop y = true := by
  rw [stops, List.mem_filter, FileTree.mem_below_iff ht]

theorem atStop_eq_ok_iff (ht : t.Sound) (hroot : FileTree.checkText root = .ok ())
    {y : Location × Entry} (hy : y ∈ stops t l) {ds : List Declaration} :
    atStop t rootPackage root root y = .ok ds ↔ Passes t rootPackage root y ds := by
  obtain ⟨⟨-, he⟩, -⟩ := (mem_stops_iff ht).1 hy
  obtain ⟨rel, e⟩ := y
  cases e with
  | file bytes =>
    rw [atStop, scanFile_eq_ok_iff]
    exact ⟨.file, fun h => by cases h; assumption⟩
  | directory =>
    have hnames : ∀ n ∈ rel, FileTree.IsName n := fun n hn =>
      ht.names _ _ he n (List.mem_append_right _ hn)
    rw [atStop, checkText_pathBelow hroot hnames]
    by_cases hshort : (pathBelow root rel).text.utf8ByteSize < FileTree.maxPath
    · rw [if_pos hshort]
      refine ⟨fun h => ?_, fun h => ?_⟩
      · obtain rfl := Except.ok.inj h
        exact .directory hshort
      · cases h
        rfl
    · rw [if_neg hshort]
      constructor
      · intro h
        cases h
      · intro h
        cases h with
        | directory h => exact absurd h hshort

/-- The stops are listed in the order of their names' bytes. -/
theorem ascending_stops (ht : t.Sound) (l : Location) :
    (stops t l).Pairwise fun a b => a.1.map Text.bytes < b.1.map Text.bytes :=
  ((FileTree.pairwise_below ht l).filter _).imp fun h => Text.map_bytes_lt h.1 h.2

/-- A file is a stop if it is a source and no directory above it is skipped. -/
theorem file_mem_stops_iff (ht : t.Sound) (hl : t.get? l = some .directory) {rel : Location}
    {bytes : ByteArray} :
    (rel, .file bytes) ∈ stops t l ↔ t.get? (l ++ rel) = some (.file bytes) ∧
      (∀ d ∈ rel.dropLast, isSkipped d = false) ∧ ∃ n, rel.getLast? = some n ∧ isSourceName n := by
  have hne : t.get? (l ++ rel) = some (.file bytes) → rel ≠ [] := by
    rintro he rfl
    rw [List.append_nil, hl] at he
    cases he
  rw [mem_stops_iff ht, and_iff_right_of_imp hne]
  simp [isStop, Option.any_eq_true]

/-! ## The scan -/

/-- **A directory is scanned in order.** -/
theorem scan_directory {w : World} (ht : w.tree.Sound)
    (hroot : w.tree.lookup root = .ok (l, .directory)) (rootPackage : Option String) :
    ScansInOrder w.tree rootPackage root l ((scan root rootPackage).runOn w).1 := by
  obtain ⟨hr, hl⟩ := FileTree.lookup_eq_ok_iff.1 hroot
  have hc := (FileTree.resolve_eq_ok_iff.1 hr).1
  have hpass : ∀ y ∈ stops w.tree l, ∀ ds, atStop w.tree rootPackage root root y = .ok ds ↔
      Passes w.tree rootPackage root y ds := fun y hy ds => atStop_eq_ok_iff ht hc hy
  rw [runOn_scan, round, declarations_of_directory ht hroot]
  refine .intro (stops w.tree l) (fun rel bytes => file_mem_stops_iff ht hl) (fun rel => ?_)
    (ascending_stops ht l) (fun r => ?_) fun e => ?_
  · simp [mem_stops_iff ht, isStop, and_assoc]
  · rw [map_eq_ok_iff]
    simp only [inTurn_eq_ok_iff_of hpass]
    constructor
    · rintro ⟨_, ⟨dss, hdss, rfl⟩, hr⟩
      exact ⟨dss, hdss, hr⟩
    · rintro ⟨dss, hdss, hr⟩
      exact ⟨_, ⟨dss, hdss, rfl⟩, hr⟩
  · rw [map_eq_error_iff, inTurn_eq_error_iff_of hpass]

/-- A controller stands in front of a route in the order of names, though not in that of whole paths,
and what lies in a skipped directory is not even read. -/
theorem scan_directory_of_four :
    let t : FileTree := ⟨[(["w"], .directory), (["w", ".src"], .directory),
      (["w", ".src", "a.rs"], .file "#[get_mapping] fn f() {}".toUTF8),
      (["w", ".src", "a"], .directory),
      (["w", ".src", "a", ".b.rs"], .file "#[controller] struct C;".toUTF8),
      (["w", ".src", "target"], .directory),
      (["w", ".src", "target", "c.rs"], .file "(".toUTF8),
      (["w", ".src", "a", "note.txt"], .file "(".toUTF8)], ["w"]⟩
    t.Sound ∧ t.lookup ⟨".src"⟩ = .ok (["w", ".src"], .directory) ∧
      ScansInOrder t none ⟨".src"⟩ ["w", ".src"] ((scan ⟨".src"⟩ none).runOn { tree := t }).1 := by
  intro t
  have ht : t.Sound := by decide +kernel
  have hroot : t.lookup ⟨".src"⟩ = .ok (["w", ".src"], .directory) := by decide +kernel
  exact ⟨ht, hroot, scan_directory (w := { tree := t }) ht hroot none⟩

/-! ## A path that is too long -/

theorem checkText_slashed {n : Nat} (hn : n + 4 < FileTree.maxPath) :
    FileTree.checkText (Path.slashed "src" n) = .ok () := by
  have hsrc : "src".utf8ByteSize = 3 := by decide +kernel
  refine FileTree.checkText_eq_ok_iff.2 ⟨?_, ?_, ?_⟩
  · simp [Path.toList_slashed]
  · simp [Path.slashed]
  · rw [Path.size_slashed]
    omega

/-- The path leads to `src` in the working directory. -/
theorem lookup_slashed {n : Nat} (hn : n + 4 < FileTree.maxPath) {t : FileTree}
    (hcwd : t.get? t.cwd = some .directory) (hsrc : t.get? (t.cwd ++ ["src"]) = some .directory) :
    t.lookup (Path.slashed "src" n) = .ok (t.cwd ++ ["src"], .directory) := by
  obtain ⟨hhead, hbody⟩ := Path.head_bodyComponents_slashed "src" n (by decide) (by decide)
  rw [show Path.pieceComponent "src".toList = .normal "src" by decide] at hbody
  have hstart : t.start (Path.slashed "src" n) = t.cwd := by
    simp [FileTree.start, Path.isAbsolute, hhead]
  have hshort : ∀ m, Path.Component.normal m ∈ Path.bodyComponents (Path.slashed "src" n).body →
      FileTree.byteCount m.toList ≤ FileTree.maxName := by
    intro m hm
    rw [hbody] at hm
    obtain rfl := Path.Component.normal.inj (List.mem_singleton.1 hm)
    decide +kernel
  have hdir : ∀ x y, Path.bodyComponents (Path.slashed "src" n).body = x ++ y →
      t.get? (Path.walk t.cwd x) = some .directory := by
    rw [hbody]
    intro x y hxy
    rcases List.append_eq_singleton_iff.1 hxy.symm with ⟨rfl, -⟩ | ⟨rfl, -⟩
    · exact hcwd
    · exact hsrc
  refine FileTree.lookup_eq_ok_iff.2
    ⟨FileTree.resolve_eq_ok_iff.2 ⟨checkText_slashed hn, ?_⟩, hsrc⟩
  rw [hstart, FileTree.follow_of_directories hshort hdir, hbody]
  rfl

/-- A directory in `src` whose path is too long cannot be opened. -/
theorem scan_slashed {n : Nat} (hn : n + 4 < FileTree.maxPath) (habc : FileTree.maxPath ≤ n + 7) :
    let t : FileTree := ⟨[(["w"], .directory), (["w", "src"], .directory),
      (["w", "src", "abc"], .directory)], ["w"]⟩
    let root := Path.slashed "src" n
    ((scan root none).runOn { tree := t }).1 =
      .error (.unreadable (.names root (root.join ⟨"abc"⟩)) .nameTooLong) := by
  intro t root
  have ht : t.Sound := by decide +kernel
  have hstops : stops t ["w", "src"] = [(["abc"], .directory)] := by decide +kernel
  have hlong : ¬(pathBelow root ["abc"]).text.utf8ByteSize < FileTree.maxPath := by
    have hsrc : "src".utf8ByteSize = 3 := by decide +kernel
    have habc : "abc".utf8ByteSize = 3 := by decide +kernel
    have hjoin : pathBelow root ["abc"] = ⟨root.text ++ "abc"⟩ :=
      Path.join_slashed "src" n (q := ⟨"abc"⟩) (by decide +kernel)
    rw [hjoin, String.utf8ByteSize_append, Path.size_slashed]
    omega
  have hstop : atStop t none root root (["abc"], .directory) =
      .error (.unreadable (.names root (root.join ⟨"abc"⟩)) .nameTooLong) := by
    rw [atStop, checkText_pathBelow (checkText_slashed hn) (by decide +kernel), if_neg hlong]
    rfl
  rw [runOn_scan, round, declarations_of_directory ht (lookup_slashed hn rfl rfl)]
  change ((inTurn _ (stops t ["w", "src"])).map _) = _
  rw [hstops, inTurn_cons_of_error hstop]
  rfl

/-- A directory that cannot be opened makes the scan fail though there is no file at all. -/
theorem scan_fails_without_files :
    let root : Path := ⟨"src" ++ String.ofList (List.replicate 4090 '/')⟩
    let t : FileTree := ⟨[(["w"], .directory), (["w", "src"], .directory),
      (["w", "src", "abc"], .directory)], ["w"]⟩
    t.Sound ∧ t.lookup root = .ok (["w", "src"], .directory) ∧
      (∀ l bytes, t.get? l ≠ some (.file bytes)) ∧
      ((scan root none).runOn { tree := t }).1 =
        .error (.unreadable (.names root (root.join ⟨"abc"⟩)) .nameTooLong) := by
  intro root t
  have ht : t.Sound := by decide +kernel
  refine ⟨ht, lookup_slashed (n := 4089) (by decide) rfl rfl, fun l bytes hl => ?_,
    scan_slashed (n := 4089) (by decide) (by decide)⟩
  have hne : l ≠ [] := by
    rintro rfl
    cases hl
  have hmem := (ht.mem_entries_iff hne).2 hl
  simp [t] at hmem

end EndpointStubs.Source
