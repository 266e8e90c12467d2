import EndpointStubs.Proofs.Path.Names
import EndpointStubs.Proofs.Session
import EndpointStubs.Proofs.Source.Sites
import EndpointStubs.Source.Tree

/-!
# What a file declares

No segment of the package of a file is empty, so a file declares its marked sites: it is read, its
text is source text, all markers are legible, and if there is a marked site, then the package is one
of segments. A file that fails at any of this gives nothing.

    scanFile t … base file = .ok ds ↔ Scans t (packageOf … base file) file ds
-/

namespace EndpointStubs

/-! ## Names in paths -/

namespace Path

theorem fileName?_ne_empty {p : Path} {n : String} (h : p.fileName? = some n) : n ≠ "" := by
  unfold fileName? at h
  split at h
  · rename_i name hlast
    obtain rfl := Option.some.inj h
    exact (isEntryName_of_mem_components (List.mem_of_getLast? hlast)).ne_empty
  · cases h

theorem fileStem?_ne_empty {p : Path} {stem : String} (h : p.fileStem? = some stem) :
    stem ≠ "" := by
  obtain ⟨name, hname, -⟩ := Option.map_eq_some_iff.1 h
  obtain ⟨s, hs⟩ := exists_isStem name
  obtain rfl := Option.some.inj ((hs.fileStem?_eq hname).symm.trans h)
  exact hs.ne_empty (fileName?_ne_empty hname)

end Path

namespace Source

theorem ne_empty_of_mem_modulePath {base file : Path} {n : String} (h : n ∈ modulePath base file) :
    n ≠ "" := by
  have hdirs : ∀ m ∈ ((((file.stripPrefix? base).getD file).parent?.map segmentNames).getD []),
      m ≠ "" := by
    intro m hm
    cases hp : ((file.stripPrefix? base).getD file).parent? with
    | none =>
      rw [hp] at hm
      cases hm
    | some q =>
      rw [hp] at hm
      have hq := (List.mem_filter.1 (show m ∈ segmentNames q from hm)).2
      simp only [Bool.and_eq_true, decide_eq_true_eq] at hq
      exact hq.1
  unfold modulePath at h
  simp only at h
  split at h
  · rename_i stem hstem
    split at h
    · exact hdirs n h
    · rcases List.mem_append.1 h with h | h
      · exact hdirs n h
      · rw [List.mem_singleton.1 h]
        exact Path.fileStem?_ne_empty hstem
  · exact hdirs n h

theorem ne_empty_of_mem_rootSegments {rootPackage : Option String} {n : String}
    (h : n ∈ rootSegments rootPackage) : n ≠ "" := by
  cases rootPackage with
  | none => cases h
  | some p => simpa using (List.mem_filter.1 h).2

theorem ne_empty_of_mem_packageOf {rootPackage : Option String} {base file : Path} {n : String}
    (h : n ∈ packageOf rootPackage base file) : n ≠ "" :=
  (List.mem_append.1 h).elim ne_empty_of_mem_rootSegments ne_empty_of_mem_modulePath

/-! ## Files -/

/-- A file that can be scanned in a package, with the declarations of its marked sites. -/
inductive Scans (t : FileTree) (package : List String) (file : Path) : List Declaration → Prop where
  | intro {text : String} {items : List Syntax.Item}
    (read : t.readText file = .ok text)
    (parsed : Syntax.fileItems? text = some items)
    (legible : ∀ s ∈ sitesOf [] items, ¬s.Unreadable)
    (named : (∃ s ∈ sitesOf [] items, s.markers ≠ []) →
      ∀ n ∈ package, QualifiedName.isSegment n = true) :
    Scans t package file
      (((sitesOf [] items).filter fun s => s.markers ≠ []).map (Site.declaration package))

/-- Items declare their marked sites, in order, if all markers can be read. -/
theorem ofItems_eq_ok_iff {package : List String} (hp : ∀ n ∈ package, n ≠ "")
    {items : List Syntax.Item} {ds : List Declaration} :
    ofItems package items = .ok ds ↔ (∀ s ∈ sitesOf [] items, ¬s.Unreadable) ∧
      ds = ((sitesOf [] items).filter fun s => s.markers ≠ []).map (Site.declaration package) := by
  have hg : ofItems package items = gather package (sitesOf [] items) := by
    have h := ofItems_eq_gather hp items []
    rwa [List.map_nil, List.append_nil] at h
  have herror := gather_error_iff package (sitesOf [] items)
  rw [hg]
  cases hr : gather package (sitesOf [] items) with
  | error e =>
    obtain ⟨s, hs, hunreadable⟩ := herror.1 ⟨e, hr⟩
    exact ⟨nofun, fun h => absurd hunreadable (h.1 s hs)⟩
  | ok es =>
    have hlegible : ∀ s ∈ sitesOf [] items, ¬s.Unreadable := by
      intro s hs hunreadable
      obtain ⟨e, he⟩ := herror.2 ⟨s, hs, hunreadable⟩
      rw [hr] at he
      cases he
    rw [Except.ok.injEq, gather_eq_ok hr, eq_comm]
    exact (and_iff_right hlegible).symm

/-- Nothing is declared if nothing is marked. -/
theorem declarations_eq_nil_iff {package : List String} {ss : List Site} :
    (ss.filter fun s => s.markers ≠ []).map (Site.declaration package) = [] ↔
      ¬∃ s ∈ ss, s.markers ≠ [] := by
  simp [List.filter_eq_nil_iff]

theorem scanText_eq_ok_iff {t : FileTree} {package : List String} (hp : ∀ n ∈ package, n ≠ "")
    {file : Path} {text : String} (hread : t.readText file = .ok text) {ds : List Declaration} :
    scanText package file text = .ok ds ↔ Scans t package file ds := by
  constructor
  · intro h
    unfold scanText at h
    split at h
    · cases h
    · rename_i items hitems
      split at h
      · cases h
      · rename_i es hes
        obtain ⟨hlegible, hsites⟩ := (ofItems_eq_ok_iff hp).1 hes
        split at h
        · rename_i hnone
          obtain rfl := Except.ok.inj h
          rw [List.isEmpty_iff, hsites] at hnone
          rw [← hnone]
          exact .intro hread hitems hlegible fun hmarked =>
            absurd hmarked (declarations_eq_nil_iff.1 hnone)
        · split at h
          · cases h
          · rename_i hchecked
            obtain rfl := Except.ok.inj h
            rw [hsites]
            exact .intro hread hitems hlegible fun _ => by simpa using hchecked
  · rintro ⟨hread', hitems, hlegible, hnamed⟩
    obtain rfl := Except.ok.inj (hread.symm.trans hread')
    unfold scanText
    rw [hitems]
    simp only
    rw [(ofItems_eq_ok_iff hp).2 ⟨hlegible, rfl⟩]
    simp only
    split
    · rename_i hnone
      rw [List.isEmpty_iff.1 hnone]
    · rename_i hsome
      rw [List.isEmpty_iff, declarations_eq_nil_iff, Classical.not_not] at hsome
      have hchecked : package.find? (fun n => !QualifiedName.isSegment n) = none := by
        simpa using hnamed hsome
      rw [hchecked]

/-- A file is scanned if its text is a source and its markers can be read. -/
theorem scanFile_eq_ok_iff {t : FileTree} {rootPackage : Option String} {base file : Path}
    {ds : List Declaration} : scanFile t rootPackage base file = .ok ds ↔
      Scans t (packageOf rootPackage base file) file ds := by
  unfold scanFile
  cases hread : t.readText file with
  | error f =>
    refine ⟨nofun, ?_⟩
    rintro ⟨hread', -, -, -⟩
    rw [hread] at hread'
    cases hread'
  | ok text => exact scanText_eq_ok_iff (fun _ => ne_empty_of_mem_packageOf) hread

/-- The result of a scan is that of its declarations. -/
theorem runOn_scan (root : Path) (rootPackage : Option String) (w : World) :
    ((scan root rootPackage).runOn w).1 = round w.tree root rootPackage := by
  unfold scan round
  rw [Session.runOn_bind, Session.runOn_tree]
  simp only
  rw [Session.runOn_bind, Session.runOn_ofExcept]
  cases declarations w.tree root rootPackage <;> rfl

end Source

end EndpointStubs
