import EndpointStubs.Proofs.Source.Files
import EndpointStubs.Proofs.Source.InTurn

/-!
# Root packages

A root package made of segments only stands in front of the names: a file can be scanned with it
just if it can be scanned without it, and then every declaration has the package in front of its
name and is the same otherwise.

    name of a site in (P ++ M) = qualify P (name of the site in M)
    scan root (some p) gives r' ↔ scan root none gives some r, and r' is r with p in front
-/

namespace EndpointStubs

def Declaration.inPackage (package : String) (d : Declaration) : Declaration :=
  { d with name := QualifiedName.qualify package d.name }

namespace Source

/-! ## Names -/

theorem Site.declaration_append {package : List String} (hp : ∀ n ∈ package, n ≠ "")
    (modules : List String) (s : Site) :
    s.declaration (package ++ modules) =
      (s.declaration modules).inPackage (packageName package) := by
  have hname : s.name (package ++ modules) =
      QualifiedName.qualify (packageName package) (s.name modules) := by
    rw [Site.name, Site.scopeIn, List.append_assoc, List.append_assoc,
      ← qualify_packageName_append hp (by simp), Site.name, Site.scopeIn, List.append_assoc]
  rw [Site.declaration, hname]
  rfl

/-! ## Files and rounds -/

/-- The round of declarations that are put in a package. -/
theorem ofDeclarations_inPackage (package : String) (ds : List Declaration) :
    Round.ofDeclarations (ds.map (Declaration.inPackage package)) =
      { annotations := (Round.ofDeclarations ds).annotations
        declarations :=
          (Round.ofDeclarations ds).declarations.map (Declaration.inPackage package) } := by
  have hkept : (ds.map (Declaration.inPackage package)).filter (fun d => !d.markers.isEmpty) =
      (ds.filter fun d => !d.markers.isEmpty).map (Declaration.inPackage package) := by
    rw [List.filter_map]
    rfl
  simp only [Round.ofDeclarations, hkept, List.flatMap_map]
  rfl

/-- The root package stands in front of the package of each file. -/
theorem packageOf_some (p : String) (base file : Path) :
    packageOf (some p) base file = rootSegments (some p) ++ packageOf none base file := by
  have hnone : rootSegments none = [] := rfl
  rw [packageOf, packageOf, hnone, List.nil_append]

section

variable {t : FileTree} {p : String}
  (hp : ∀ n ∈ rootSegments (some p), QualifiedName.isSegment n = true)

include hp

/-- A file is scanned in a package below the root package as it is without that. -/
theorem scans_append_iff {package : List String} {file : Path} {ds' : List Declaration} :
    Scans t (rootSegments (some p) ++ package) file ds' ↔ ∃ ds, Scans t package file ds ∧
      ds' = ds.map (Declaration.inPackage (packageName (rootSegments (some p)))) := by
  have hne : ∀ n ∈ rootSegments (some p), n ≠ "" := fun n => ne_empty_of_mem_rootSegments
  have hmap : ∀ ss : List Site, ss.map (Site.declaration (rootSegments (some p) ++ package)) =
      (ss.map (Site.declaration package)).map
        (Declaration.inPackage (packageName (rootSegments (some p)))) := by
    intro ss
    rw [List.map_map]
    exact List.map_congr_left fun s _ => Site.declaration_append hne package s
  constructor
  · rintro ⟨hread, hparsed, hlegible, hnamed⟩
    refine ⟨_, .intro hread hparsed hlegible fun hmarked n hn => ?_, hmap _⟩
    exact hnamed hmarked n (List.mem_append_right _ hn)
  · rintro ⟨_, ⟨hread, hparsed, hlegible, hnamed⟩, rfl⟩
    rw [← hmap]
    refine .intro hread hparsed hlegible fun hmarked n hn => ?_
    exact (List.mem_append.1 hn).elim (hp n) (hnamed hmarked n)

theorem scanVisit_some_iff {base : Path} {v : Visit} {ds' : List Declaration} :
    scanVisit t (some p) base v = .ok ds' ↔ ∃ ds, scanVisit t none base v = .ok ds ∧
      ds' = ds.map (Declaration.inPackage (packageName (rootSegments (some p)))) := by
  cases v with
  | closed q f => simp [scanVisit]
  | file q =>
    simp only [scanVisit, scanFile_eq_ok_iff, packageOf_some]
    exact scans_append_iff hp

/-- With a root package, the same declarations are found in it. -/
theorem declarations_some_iff {root : Path} {ds' : List Declaration} :
    declarations t root (some p) = .ok ds' ↔ ∃ ds, declarations t root none = .ok ds ∧
      ds' = ds.map (Declaration.inPackage (packageName (rootSegments (some p)))) := by
  unfold declarations
  cases hv : visits t root with
  | error e =>
    refine ⟨nofun, ?_⟩
    rintro ⟨ds, hds, -⟩
    cases hds
  | ok found =>
    change inTurn (scanVisit t (some p) found.1) found.2 = .ok ds' ↔
      ∃ ds, inTurn (scanVisit t none found.1) found.2 = .ok ds ∧ _
    exact inTurn_eq_ok_iff_map fun v _ ds' => scanVisit_some_iff hp

/-- **A root package only goes in front of the names.** -/
theorem scan_in_rootPackage (root : Path) (w : World) (r' : Round) :
    ((scan root (some p)).runOn w).1 = .ok r' ↔ ∃ r, ((scan root none).runOn w).1 = .ok r ∧
      r'.annotations = r.annotations ∧
      r'.declarations = r.declarations.map fun d =>
        { d with name := QualifiedName.qualify (packageName (rootSegments (some p))) d.name } := by
  simp only [runOn_scan, round, map_eq_ok_iff, declarations_some_iff hp]
  constructor
  · rintro ⟨_, ⟨ds, hds, rfl⟩, rfl⟩
    rw [ofDeclarations_inPackage]
    exact ⟨_, ⟨ds, hds, rfl⟩, rfl, rfl⟩
  · rintro ⟨_, ⟨ds, hds, rfl⟩, ha, hd⟩
    refine ⟨_, ⟨ds, hds, rfl⟩, ?_⟩
    rw [ofDeclarations_inPackage]
    cases r'
    simp only at ha hd
    rw [ha, hd]
    rfl

end

/-- Stray dots do not count, and the modules of the file stay where they are. -/
theorem scan_in_com_acme :
    let t : FileTree := ⟨[(["w"], .directory), (["w", "src"], .directory),
      (["w", "src", "x"], .directory),
      (["w", "src", "x", "y.rs"], .file
        "#[rest_controller] struct A; mod m { trait T { #[get_mapping] fn f(); } }".toUTF8)], ["w"]⟩
    let ds : List Declaration := [
      { name := "com.acme.x.y.A", markers := [{ kind := .restController }] },
      { name := "com.acme.x.y.m.T.f", markers := [{ kind := .getMapping }],
        declaredType := some "()" }]
    (∀ n ∈ rootSegments (some ".com..acme."), QualifiedName.isSegment n = true) ∧
      ∃ r, ((scan ⟨"src"⟩ none).runOn { tree := t }).1 = .ok r ∧
        (Round.ofDeclarations ds).annotations = r.annotations ∧
        ds = r.declarations.map fun d => { d with
          name := QualifiedName.qualify (packageName (rootSegments (some ".com..acme."))) d.name } := by
  intro t ds
  have hp : ∀ n ∈ rootSegments (some ".com..acme."), QualifiedName.isSegment n = true := by
    decide +kernel
  have hscan : ((scan ⟨"src"⟩ (some ".com..acme.")).runOn { tree := t }).1 =
      .ok (Round.ofDeclarations ds) := by
    decide +kernel
  exact ⟨hp, (scan_in_rootPackage hp ⟨"src"⟩ { tree := t } (Round.ofDeclarations ds)).1 hscan⟩

end Source

end EndpointStubs
