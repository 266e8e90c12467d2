import EndpointStubs.Emit.Emitter
import EndpointStubs.Proofs.Emit.Layout
import EndpointStubs.Proofs.FileTree.Place
import EndpointStubs.Proofs.Path.Names

/-!
# Targets

Both files of an artifact have the same names below their roots: the canonical path goes on from
the generated root and its counterpart from the other root. A name has targets if its segments are
ones and the extension does not go up.

    (ofRoots g c ext).targets name = .ok a →
      a.canonical.components = g.components ++ rel.map .normal ∧
      a.counterpart.components = c.components ++ rel.map .normal          for the names rel of name
-/

namespace EndpointStubs

namespace Relocation

variable {r : Relocation} {p q : Path}

/-- What is moved goes on from both roots by the same names. -/
theorem components_path (h : r.path p = .ok q) :
    ∃ rel : List String, p.components = r.source.components ++ rel.map .normal ∧
      q.components = r.target.components ++ rel.map .normal ∧
      ∃ rest, q = r.target.join rest ∧ rest.components = rel.map .normal := by
  unfold path at h
  cases hs : p.stripPrefix? r.source with
  | none => rw [hs] at h; cases h
  | some rest =>
    rw [hs] at h
    simp only at h
    split at h
    · rename_i hall
      obtain rfl := Except.ok.inj h
      obtain ⟨rel, hrel⟩ : ∃ rel : List String, rest.components = rel.map .normal := by
        refine Path.exists_names_of_forall fun c hc => ?_
        have hname := List.all_eq_true.1 hall c hc
        cases c with
        | normal n => exact ⟨n, rfl⟩
        | root | current | parent => cases hname
      refine ⟨rel, ?_, ?_, rest, rfl, hrel⟩
      · rw [Path.components_of_stripPrefix? hs, hrel]
      · rw [Path.components_join (Path.head_eq_none_of_components hrel), hrel]
    · cases h

theorem exists_path {rel : List String}
    (h : p.components = r.source.components ++ rel.map .normal) : ∃ q, r.path p = .ok q := by
  obtain ⟨rest, hs, hrest⟩ := Path.exists_stripPrefix? h
  refine ⟨r.target.join rest, ?_⟩
  unfold path
  rw [hs]
  exact if_pos (by simp [hrest])

/-- What has no path under the target is named with the source that it does not lie under. -/
theorem path_eq_error {e : EmitError} (h : r.path p = .error e) : e = .unmapped p r.source := by
  unfold path at h
  split at h
  · split at h
    · cases h
    · exact (Except.error.inj h).symm
  · exact (Except.error.inj h).symm

end Relocation

namespace Emitter

theorem targets_eq_ok_iff {e : Emitter} {name : String} {a : Artifact} :
    e.targets name = .ok a ↔ a.name = name ∧ e.layout.path name = .ok a.canonical ∧
      e.relocation.path a.canonical = .ok a.counterpart := by
  unfold targets
  rw [Outcome.bind_eq_ok_iff]
  constructor
  · rintro ⟨c, hc, h⟩
    obtain ⟨m, hm, h⟩ := Outcome.bind_eq_ok_iff.1 h
    obtain rfl := Except.ok.inj h
    exact ⟨rfl, hc, hm⟩
  · rintro ⟨rfl, hc, hm⟩
    exact ⟨_, hc, Outcome.bind_eq_ok_iff.2 ⟨_, hm, rfl⟩⟩

theorem targets_eq_error_iff {e : Emitter} {name : String} {err : EmitError} :
    e.targets name = .error err ↔ e.layout.path name = .error err ∨
      ∃ c, e.layout.path name = .ok c ∧ e.relocation.path c = .error err := by
  unfold targets
  rw [Outcome.bind_eq_error_iff]
  refine or_congr_right (exists_congr fun c => and_congr_right fun _ => ?_)
  rw [Outcome.bind_eq_error_iff]
  exact or_iff_left fun ⟨_, _, h⟩ => nomatch h

theorem targets_ne_collision (e : Emitter) (name : String) (q : Path) :
    e.targets name ≠ .error (.collision q) := by
  intro h
  rcases targets_eq_error_iff.1 h with h | ⟨c, -, h⟩
  · cases (Layout.path_eq_error_iff.1 h).1
  · cases Relocation.path_eq_error h

theorem targets_eq_invalidName_iff {e : Emitter} {name n : String} :
    e.targets name = .error (.invalidName n) ↔
      n = name ∧ ¬(QualifiedName.segments name).all QualifiedName.isSegment = true := by
  rw [targets_eq_error_iff, Layout.path_eq_error_iff, EmitError.invalidName.injEq]
  exact or_iff_left fun ⟨_, _, h⟩ => nomatch Relocation.path_eq_error h

variable {generated counterpart : Path} {extension name : String} {a : Artifact}

theorem not_mem_of_targets (h : (ofRoots generated counterpart extension).targets name = .ok a) :
    ['.', '.'] ∉ (Layout.mk generated extension).ending.tail := by
  obtain ⟨-, hl, hr⟩ := targets_eq_ok_iff.1 h
  obtain ⟨rel, hrel, -⟩ := Relocation.components_path hr
  have hc := Layout.components_path hl
  rw [hrel] at hc
  have hc := List.append_cancel_left hc
  intro hm
  have hp : Path.Component.parent ∈
      Path.bodyComponents (Layout.mk generated extension).ending.tail :=
    List.mem_map.2 ⟨_, List.mem_filter.2 ⟨hm, by decide⟩, rfl⟩
  have : Path.Component.parent ∈ rel.map Path.Component.normal := by
    rw [hc]
    exact List.mem_append_right _ (List.mem_cons_of_mem _ hp)
  simp at this

/-- Below their roots, the two files of an artifact have the same names. -/
theorem components_of_targets (h : (ofRoots generated counterpart extension).targets name = .ok a) :
    a.canonical.components =
        generated.components ++ ((Layout.mk generated extension).names name).map .normal ∧
      a.counterpart.components =
        counterpart.components ++ ((Layout.mk generated extension).names name).map .normal := by
  obtain ⟨-, hl, hr⟩ := targets_eq_ok_iff.1 h
  have hc := Layout.components_path_of_not_mem hl (not_mem_of_targets h)
  obtain ⟨rel, hrel, hrel', -⟩ := Relocation.components_path hr
  rw [hrel] at hc
  have hnames : rel.map Path.Component.normal =
    ((Layout.mk generated extension).names name).map .normal := List.append_cancel_left hc
  rw [hnames] at hrel hrel'
  exact ⟨hrel, hrel'⟩

/-- A name has targets if it consists of segments and the extension does not go up. -/
theorem exists_targets_iff : (∃ a, (ofRoots generated counterpart extension).targets name = .ok a) ↔
    (QualifiedName.segments name).all QualifiedName.isSegment = true ∧
      ['.', '.'] ∉ (Layout.mk generated extension).ending.tail := by
  constructor
  · rintro ⟨a, h⟩
    exact ⟨(Layout.path_eq_ok_iff.1 (targets_eq_ok_iff.1 h).2.1).1, not_mem_of_targets h⟩
  · rintro ⟨hs, he⟩
    obtain ⟨p, hl⟩ : ∃ p, (Layout.mk generated extension).path name = .ok p :=
      ⟨_, Layout.path_eq_ok_iff.2 ⟨hs, rfl⟩⟩
    have hc := Layout.components_path_of_not_mem hl he
    obtain ⟨q, hq⟩ : ∃ q, (Relocation.mk generated counterpart).path p = .ok q :=
      Relocation.exists_path hc
    exact ⟨⟨name, p, q⟩, targets_eq_ok_iff.2 ⟨rfl, hl, hq⟩⟩

theorem place_of_targets (cwd : Location)
    (h : (ofRoots generated counterpart extension).targets name = .ok a) :
    a.canonical.place cwd =
        generated.place cwd ++ (Layout.mk generated extension).names name ∧
      a.counterpart.place cwd =
        counterpart.place cwd ++ (Layout.mk generated extension).names name := by
  obtain ⟨hc, hm⟩ := components_of_targets h
  constructor
  · rw [Path.place, hc, Path.walk_append, Path.walk_normal]
    rfl
  · rw [Path.place, hm, Path.walk_append, Path.walk_normal]
    rfl

/-- The texts of both files start with those of their roots. -/
theorem text_isPrefix_of_targets
    (h : (ofRoots generated counterpart extension).targets name = .ok a) :
    generated.text.toList <+: a.canonical.text.toList ∧
      counterpart.text.toList <+: a.counterpart.text.toList := by
  obtain ⟨-, hl, hr⟩ := targets_eq_ok_iff.1 h
  obtain ⟨rel, -, -, rest, hq, hrest⟩ := Relocation.components_path hr
  refine ⟨Layout.text_isPrefix_path hl, ?_⟩
  rw [hq]
  exact Path.text_isPrefix_join (Path.head_eq_none_of_components hrest)

end Emitter

end EndpointStubs
