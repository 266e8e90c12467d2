import EndpointStubs.Proofs.Source.Files
import EndpointStubs.Proofs.Source.Gathered

/-!
# Where declarations of sources come from

Whatever is collected from sources alone is what a marked site declares, in a package that a file
stands for. That package was checked: all of it are segments. The words of the site were not.

    d ∈ r.declarations  →  d = s.declaration package, and package.all isSegment
-/

namespace EndpointStubs

namespace Source

/-- The declaration of a marked site, in a package made of segments. -/
structure Declares (package : List String) (s : Site) (d : Declaration) : Prop where
  segments : ∀ n ∈ package, QualifiedName.isSegment n = true
  marked : s.markers ≠ []
  eq : d = s.declaration package

theorem ne_empty_of_isSegment {s : String} (h : QualifiedName.isSegment s = true) : s ≠ "" := by
  rintro rfl
  revert h
  decide

/-- The declarations in a file have a package that was checked. -/
theorem Scans.exists_declares {t : FileTree} {package : List String} {file : Path}
    {ds : List Declaration} (h : Scans t package file ds) {d : Declaration} (hd : d ∈ ds) :
    ∃ s, Declares package s d := by
  obtain ⟨-, -, -, hnamed⟩ := h
  obtain ⟨s, hs, rfl⟩ := List.mem_map.1 hd
  obtain ⟨hsite, hmarked⟩ := List.mem_filter.1 hs
  exact ⟨s, hnamed ⟨s, hsite, of_decide_eq_true hmarked⟩, of_decide_eq_true hmarked, rfl⟩

/-- Each declaration of a source stands at some site in it. -/
theorem exists_declares_of_declarations {t : FileTree} {root : Path} {rootPackage : Option String}
    {ds : List Declaration} (h : declarations t root rootPackage = .ok ds) {d : Declaration}
    (hd : d ∈ ds) : ∃ package s, Declares package s d := by
  unfold declarations at h
  cases hv : visits t root with
  | error e => rw [hv] at h; cases h
  | ok found =>
    rw [hv] at h
    change inTurn (scanVisit t rootPackage found.1) found.2 = .ok ds at h
    obtain ⟨v, -, es, hes, hd⟩ := exists_of_inTurn_eq_ok h hd
    cases v with
    | closed p f => cases hes
    | file p => exact ⟨_, (scanFile_eq_ok_iff.1 hes).exists_declares hd⟩

end Source

/-- What is collected from sources is declared by their sites. -/
theorem Origins.exists_declares {o : Origins} {w w' : World} {r : Round} (ho : o.manifests = [])
    (h : o.collect.runOn w = (.ok r, w')) {d : Declaration} (hd : d ∈ r.declarations) :
    ∃ package s, Source.Declares package s d := by
  have hresult := o.reads_collect.result w
  rw [h] at hresult
  obtain ⟨ds, hds, rfl⟩ := Source.map_eq_ok_iff.1 hresult.symm
  have hd : d ∈ ds := (List.mem_filter.1 hd).1
  obtain ⟨x, hx, es, hes, hd⟩ := Source.exists_of_inTurn_eq_ok hds hd
  rw [all, ho, List.map_nil, List.append_nil] at hx
  obtain ⟨root, -, rfl⟩ := List.mem_map.1 hx
  simp only [Origin.declarations] at hes
  cases hroot : Source.declarations w.tree root o.rootPackage with
  | error e =>
    rw [hroot] at hes
    cases hes
  | ok fs =>
    rw [hroot] at hes
    obtain rfl := Except.ok.inj hes
    exact Source.exists_declares_of_declarations hroot hd

end EndpointStubs
