import EndpointStubs.Proofs.Emit.Confined

/-!
# Relocations and back

A relocation moves exactly the paths that go on from its source by names, and those names go on
from its target. So it never leads out of the target, and the relocation the other way undoes it.

    (∃ q, r.path p = .ok q) ↔ p.components = r.source.components ++ names
    r.path p = .ok q → q.components = r.target.components ++ names
    r.path p = .ok q → ∃ p', r.back.path q = .ok p' ∧ p'.components = p.components
-/

namespace EndpointStubs.Relocation

/-- The relocation the other way. -/
def back (r : Relocation) : Relocation := ⟨r.target, r.source⟩

/-- What a path has after the source. -/
def remainder (r : Relocation) (p : Path) : List Path.Component :=
  p.components.drop r.source.components.length

/-- The path goes on from the source by names. -/
structure Covers (r : Relocation) (p : Path) : Prop where
  isPrefix : r.source.components <+: p.components
  isNormal : ∀ c ∈ r.remainder p, ∃ n, c = .normal n

variable {r : Relocation} {p q : Path}

theorem remainder_of_components {cs : List Path.Component}
    (h : p.components = r.source.components ++ cs) : r.remainder p = cs := by
  unfold remainder
  rw [h, List.drop_left]

theorem covers_iff :
    r.Covers p ↔ ∃ names : List String,
      p.components = r.source.components ++ names.map .normal := by
  constructor
  · rintro ⟨⟨cs, hcs⟩, hnormal⟩
    rw [remainder_of_components hcs.symm] at hnormal
    obtain ⟨names, rfl⟩ := Path.exists_names_of_forall hnormal
    exact ⟨names, hcs.symm⟩
  · rintro ⟨names, h⟩
    constructor
    · exact ⟨_, h.symm⟩
    · rw [remainder_of_components h]
      intro c hc
      obtain ⟨n, -, rfl⟩ := List.mem_map.1 hc
      exact ⟨n, rfl⟩

theorem exists_path_iff : (∃ q, r.path p = .ok q) ↔ r.Covers p := by
  rw [covers_iff]
  constructor
  · rintro ⟨q, h⟩
    obtain ⟨names, hp, -⟩ := components_path h
    exact ⟨names, hp⟩
  · rintro ⟨names, h⟩
    exact exists_path h

theorem components_eq_remainder (h : r.path p = .ok q) :
    p.components = r.source.components ++ r.remainder p ∧
      q.components = r.target.components ++ r.remainder p := by
  obtain ⟨names, hp, hq, -⟩ := components_path h
  rw [remainder_of_components hp]
  exact ⟨hp, hq⟩

/-- From below the target, the other way is open, and leads to where the path came from. -/
theorem exists_back_path (h : r.path p = .ok q) :
    ∃ p', r.back.path q = .ok p' ∧ p'.components = p.components := by
  obtain ⟨names, hp, hq, -⟩ := components_path h
  obtain ⟨p', hback⟩ : ∃ p', r.back.path q = .ok p' := exists_path hq
  refine ⟨p', hback, ?_⟩
  have hnames : r.back.remainder q = names.map .normal := remainder_of_components hq
  have hp' := (components_eq_remainder hback).2
  calc p'.components = r.source.components ++ r.back.remainder q := hp'
    _ = r.source.components ++ names.map .normal := by rw [hnames]
    _ = p.components := hp.symm

/-- A path that is moved stays below the target, wherever that lies. -/
theorem place_isPrefix (h : r.path p = .ok q) (cwd : Location) :
    r.target.place cwd <+: q.place cwd := by
  obtain ⟨names, -, hq, -⟩ := components_path h
  unfold Path.place
  rw [hq, Path.walk_append, Path.walk_normal]
  exact List.prefix_append _ _

/-- What goes on from the source by names, and nothing else, moves to where the same names lead
from the target; moving it back gives the same components, and no two paths are moved to one. -/
theorem path_undone_by_back (r : Relocation) (p : Path) :
    ((∃ q, r.path p = .ok q) ↔ r.source.components <+: p.components ∧
      ∀ c ∈ p.components.drop r.source.components.length, ∃ n, c = .normal n) ∧
    (∀ e, r.path p = .error e → e = .unmapped p r.source) ∧
    ∀ q, r.path p = .ok q →
      q.components =
        r.target.components ++ p.components.drop r.source.components.length ∧
      (∀ cwd, r.target.place cwd <+: q.place cwd) ∧
      (∃ p', (Relocation.mk r.target r.source).path q = .ok p' ∧
        p'.components = p.components) ∧
      ∀ p₂ q₂, r.path p₂ = .ok q₂ → q₂.components = q.components →
        p₂.components = p.components := by
  refine ⟨?_, fun e => path_eq_error, fun q hq => ⟨?_, place_isPrefix hq, exists_back_path hq, ?_⟩⟩
  · rw [exists_path_iff]
    constructor
    · exact fun h => ⟨h.isPrefix, h.isNormal⟩
    · exact fun h => ⟨h.1, h.2⟩
  · exact (components_eq_remainder hq).2
  · intro p₂ q₂ hq₂ heq
    obtain ⟨hp, hqc⟩ := components_eq_remainder hq
    obtain ⟨hp₂, hqc₂⟩ := components_eq_remainder hq₂
    -- Both go on from the target in the same way, so they did from the source.
    rw [hqc, hqc₂] at heq
    have hsame : r.remainder p₂ = r.remainder p := List.append_cancel_left heq
    rw [hp₂, hp, hsame]

/-- Slashes at the end, a leading `.` and the empty target count for nothing. -/
example :
    (Relocation.mk ⟨"./a//b/"⟩ ⟨""⟩).path ⟨"./a/./b//c"⟩ = .ok ⟨"c"⟩ ∧
      (Relocation.mk ⟨""⟩ ⟨"./a//b/"⟩).path ⟨"c"⟩ = .ok ⟨"./a//b/c"⟩ ∧
      (Relocation.mk ⟨"a"⟩ ⟨"b"⟩).path ⟨"a/../c"⟩ = .error (.unmapped ⟨"a/../c"⟩ ⟨"a"⟩) := by
  decide +kernel

end EndpointStubs.Relocation
