import EndpointStubs.Proofs.Model.Names
import EndpointStubs.Proofs.Round.Reached

/-!
# The places of a round's files

The files of a round lie below its two roots, the base and the stub of a package side by side. If
the roots lie apart, no file is at the place of an earlier one, or above it.

    x before y in (p.files m) → ¬y.2.place cwd <+: x.2.place cwd
-/

namespace EndpointStubs

namespace Processor

variable {p : Processor} {m : EndpointModel} {generated counterpart : Path} {extension : String}

/-- The path of a stub does not start the path of its base. -/
theorem not_names_isPrefix (l : Layout) (m : EndpointModel) :
    ¬l.names (ArtifactKind.stub.nameIn m) <+: l.names (ArtifactKind.stubBase.nameIn m) := by
  intro h
  simp only [ArtifactKind.nameIn, EndpointModel.stubName, EndpointModel.stubBaseFullName,
    Layout.names_qualify, List.prefix_append_right_inj] at h
  exact m.stubClassName_ne (Layout.eq_of_names_isPrefix (by decide +kernel) h)

/-- A file of a round is one of the two paths of an artifact. -/
theorem exists_targets_of_mem_files {x : ArtifactKind × Path} (h : x ∈ p.files m) :
    ∃ a, p.emitter.targets (x.1.nameIn m) = .ok a ∧ (x.2 = a.canonical ∨ x.2 = a.counterpart) := by
  obtain ⟨kind, -, hx⟩ := List.mem_flatMap.1 h
  cases ha : p.emitter.targets (kind.nameIn m) with
  | error err => simp [filesFor_of_error ha] at hx
  | ok a =>
    rw [filesFor_of_targets ha] at hx
    simp only [List.mem_cons, List.not_mem_nil, or_false] at hx
    rcases hx with rfl | rfl
    · exact ⟨a, ha, .inl rfl⟩
    · exact ⟨a, ha, .inr rfl⟩

theorem place_of_mem_filesFor (hp : p.emitter = .ofRoots generated counterpart extension)
    (cwd : Location) {kind : ArtifactKind} {x : ArtifactKind × Path} (h : x ∈ p.filesFor m kind) :
    ∃ root ∈ [generated, counterpart],
      x.2.place cwd = root.place cwd ++ (Layout.mk generated extension).names (kind.nameIn m) := by
  cases ha : p.emitter.targets (kind.nameIn m) with
  | error err => simp [filesFor_of_error ha] at h
  | ok a =>
    rw [filesFor_of_targets ha] at h
    rw [hp] at ha
    obtain ⟨hc, hm⟩ := Emitter.place_of_targets cwd ha
    simp only [List.mem_cons, List.not_mem_nil, or_false] at h
    rcases h with rfl | rfl
    · exact ⟨generated, by simp, hc⟩
    · exact ⟨counterpart, by simp, hm⟩

/-- Below one root nothing is at or above a place below the other root. -/
theorem not_isPrefix_of_roots {cwd : Location}
    (hgc : ¬generated.place cwd <+: counterpart.place cwd)
    (hcg : ¬counterpart.place cwd <+: generated.place cwd) {root root' : Path}
    (hroot : root ∈ [generated, counterpart]) (hroot' : root' ∈ [generated, counterpart])
    (hne : root ≠ root') (rel rel' : Location) :
    ¬root.place cwd ++ rel <+: root'.place cwd ++ rel' := by
  simp only [List.mem_cons, List.not_mem_nil, or_false] at hroot hroot'
  rcases hroot with rfl | rfl
  · obtain rfl := hroot'.resolve_left (Ne.symm hne)
    exact Path.not_append_isPrefix hgc hcg _ _
  · obtain rfl := hroot'.resolve_right (Ne.symm hne)
    exact Path.not_append_isPrefix hcg hgc _ _

/-- No file of a round is at or above the place of an earlier one. -/
theorem pairwise_places (hp : p.emitter = .ofRoots generated counterpart extension)
    {cwd : Location} (hgc : ¬generated.place cwd <+: counterpart.place cwd)
    (hcg : ¬counterpart.place cwd <+: generated.place cwd) :
    (p.files m).Pairwise fun x y => ¬y.2.place cwd <+: x.2.place cwd := by
  have hone : ∀ kind, (p.filesFor m kind).Pairwise fun x y => ¬y.2.place cwd <+: x.2.place cwd := by
    intro kind
    cases ha : p.emitter.targets (kind.nameIn m) with
    | error err => simp [filesFor_of_error ha]
    | ok a =>
      rw [filesFor_of_targets ha, List.pairwise_pair]
      rw [hp] at ha
      obtain ⟨h1, h2⟩ := Emitter.place_of_targets cwd ha
      rw [h1, h2]
      exact Path.not_append_isPrefix hcg hgc _ _
  have htwo : ∀ x ∈ p.filesFor m .stubBase, ∀ y ∈ p.filesFor m .stub,
      ¬y.2.place cwd <+: x.2.place cwd := by
    intro x hx y hy
    obtain ⟨root, hroot, hx⟩ := place_of_mem_filesFor hp cwd hx
    obtain ⟨root', hroot', hy⟩ := place_of_mem_filesFor hp cwd hy
    rw [hx, hy]
    by_cases hsame : root' = root
    · rw [hsame, List.prefix_append_right_inj]
      exact not_names_isPrefix _ m
    · exact not_isPrefix_of_roots hgc hcg hroot' hroot hsame _ _
  simp only [files, ArtifactKind.all, List.flatMap_cons, List.flatMap_nil, List.append_nil]
  exact List.pairwise_append.2 ⟨hone _, hone _, htwo⟩

/-- Each file of a round lies below one of the two roots, on paper as well. -/
theorem below_of_mem_files (hp : p.emitter = .ofRoots generated counterpart extension)
    {x : ArtifactKind × Path} (h : x ∈ p.files m) :
    ∃ root ∈ [generated, counterpart], ∃ names : List String, names ≠ [] ∧
      root.text.toList <+: x.2.text.toList ∧
      x.2.components = root.components ++ names.map .normal := by
  obtain ⟨a, ha, hx⟩ := exists_targets_of_mem_files h
  rw [hp] at ha
  obtain ⟨hc, hm⟩ := Emitter.components_of_targets ha
  obtain ⟨htc, htm⟩ := Emitter.text_isPrefix_of_targets ha
  rcases hx with hx | hx
  · exact ⟨generated, by simp, _, Layout.names_ne_nil _ _, hx ▸ htc, hx ▸ hc⟩
  · exact ⟨counterpart, by simp, _, Layout.names_ne_nil _ _, hx ▸ htm, hx ▸ hm⟩

end Processor

end EndpointStubs
