import EndpointStubs.Proofs.Emit.Targets

/-!
# Targets stay below their roots

Which names and extensions have targets, what is said about the others, and where the targets lie:
below both roots, at one and the same place.

    (∃ a, targets name = .ok a) ↔ the pieces of name are segments ∧ no later piece of extension is ".."
    targets name = .ok a → a.canonical.components   = generated.components   ++ rel.map .normal ∧
                           a.counterpart.components = counterpart.components ++ rel.map .normal
-/

namespace EndpointStubs

namespace QualifiedName

theorem isSegment_iff {s : String} : isSegment s = true ↔
    s ≠ "" ∧ ∀ c ∈ s.toList, Unicode.isAlphanumeric c = true ∨ c = '_' ∨ c = '$' := by
  simp [isSegment, isSegmentChar, or_assoc]

/-- An accepted name has only segments of letters, digits, `_` and `$`. -/
theorem all_isSegment_iff {name : String} : (segments name).all isSegment = true ↔
    ∀ s ∈ segments name,
      s ≠ "" ∧ ∀ c ∈ s.toList, Unicode.isAlphanumeric c = true ∨ c = '_' ∨ c = '$' := by
  rw [List.all_eq_true]
  exact forall₂_congr fun _ _ => isSegment_iff

end QualifiedName

namespace Layout

/-- What comes after the first piece is the same with the extension alone. -/
theorem tail_ending (l : Layout) : l.ending.tail = (Text.pieces '/' l.extension.toList).tail := by
  unfold ending
  split
  · rename_i h
    rw [h]
    rfl
  · obtain ⟨x, xs, hx⟩ := List.exists_cons_of_ne_nil (Text.pieces_ne_nil '/' l.extension.toList)
    simp [Text.pieces, hx]

/-- A `..` in the ending stands between slashes of the extension. -/
theorem dots_mem_tail_ending_iff {l : Layout} :
    ['.', '.'] ∈ l.ending.tail ↔ ".." ∈ (Text.splitString '/' l.extension).tail := by
  rw [tail_ending, Text.splitString, ← List.map_tail, List.mem_map]
  constructor
  · intro h
    exact ⟨_, h, rfl⟩
  · rintro ⟨x, hx, h⟩
    have : x = ['.', '.'] := by simpa [← String.toList_inj] using h
    exact this ▸ hx

/-- An extension without slashes is part of the last name. -/
theorem names_of_not_mem {l : Layout} (h : '/' ∉ l.extension.toList) (name : String) :
    l.names name = (QualifiedName.segments name).dropLast ++
      [l.fileName ((QualifiedName.segments name).getLast?.getD "")] := by
  have hending : l.ending = [if l.extension = "" then [] else '.' :: l.extension.toList] := by
    unfold ending
    refine Text.pieces_of_not_mem ?_
    split <;> simp [h]
  unfold names fileName
  rw [hending]
  simp only [List.headD_cons, List.tail_cons, List.filter_nil, List.map_nil]
  congr 2
  rw [← String.toList_inj]
  split <;> simp

end Layout

namespace Emitter

variable {generated counterpart : Path} {extension name : String} {a : Artifact}

/-- Something that is no segment is found before the extension is looked at. -/
theorem targets_eq_invalidName
    (h : ¬ (QualifiedName.segments name).all QualifiedName.isSegment = true) :
    (ofRoots generated counterpart extension).targets name = .error (.invalidName name) :=
  targets_eq_invalidName_iff.2 ⟨rfl, h⟩

/-- Where an extension goes up, the path that it leads to has no counterpart. -/
theorem targets_eq_unmapped
    (hs : (QualifiedName.segments name).all QualifiedName.isSegment = true)
    (he : ['.', '.'] ∈ (Layout.mk generated extension).ending.tail) :
    ∃ p, (Layout.mk generated extension).path name = .ok p ∧
      (ofRoots generated counterpart extension).targets name = .error (.unmapped p generated) := by
  obtain ⟨p, hl⟩ : ∃ p, (Layout.mk generated extension).path name = .ok p :=
    ⟨_, Layout.path_eq_ok_iff.2 ⟨hs, rfl⟩⟩
  refine ⟨p, hl, targets_eq_error_iff.2 (.inr ⟨p, hl, ?_⟩)⟩
  cases hq : (Relocation.mk generated counterpart).path p with
  | ok q =>
    -- Then there were targets, and the extension did not go up.
    have : (ofRoots generated counterpart extension).targets name = .ok ⟨name, p, q⟩ :=
      targets_eq_ok_iff.2 ⟨rfl, hl, hq⟩
    exact absurd he (not_mem_of_targets this)
  | error e =>
    obtain rfl := Relocation.path_eq_error hq
    exact hq

theorem isEntryName_of_mem_names
    (h : (ofRoots generated counterpart extension).targets name = .ok a) {n : String}
    (hn : n ∈ (Layout.mk generated extension).names name) : Path.IsEntryName n := by
  have hc := (components_of_targets h).1
  refine Path.isEntryName_of_mem_components (p := a.canonical) ?_
  rw [hc]
  exact List.mem_append_right _ (List.mem_map_of_mem hn)

/-- Names of segments have targets below both roots, at the same place, unless the extension goes
up; all others are refused, and it is said what is wrong with them. -/
theorem targets_confined (generated counterpart : Path) (extension name : String) :
    let targets := (ofRoots generated counterpart extension).targets name
    let layout : Layout := ⟨generated, extension⟩
    let segments := QualifiedName.segments name
    let AllSegments := ∀ s ∈ segments,
      s ≠ "" ∧ ∀ c ∈ s.toList, Unicode.isAlphanumeric c = true ∨ c = '_' ∨ c = '$'
    let GoesUp := ".." ∈ (Text.splitString '/' extension).tail
    ((∃ a, targets = .ok a) ↔ AllSegments ∧ ¬ GoesUp) ∧
    (¬ AllSegments → targets = .error (.invalidName name)) ∧
    (AllSegments → GoesUp →
      ∃ p, layout.path name = .ok p ∧ targets = .error (.unmapped p generated)) ∧
    ∀ a, targets = .ok a → ∃ rel : List String, rel ≠ [] ∧ (∀ n ∈ rel, Path.IsEntryName n) ∧
      a.canonical.components = generated.components ++ rel.map .normal ∧
      a.counterpart.components = counterpart.components ++ rel.map .normal ∧
      ('/' ∉ extension.toList →
        rel = segments.dropLast ++ [layout.fileName (segments.getLast?.getD "")]) := by
  intro targets layout segments AllSegments GoesUp
  have hsegments : (QualifiedName.segments name).all QualifiedName.isSegment = true ↔ AllSegments :=
    QualifiedName.all_isSegment_iff
  have hup : ['.', '.'] ∈ layout.ending.tail ↔ GoesUp := Layout.dots_mem_tail_ending_iff
  refine ⟨?_, fun h => ?_, fun hs he => ?_, fun a ha => ?_⟩
  · rw [← hsegments, ← hup]
    exact exists_targets_iff
  · rw [← hsegments] at h
    exact targets_eq_invalidName h
  · exact targets_eq_unmapped (hsegments.2 hs) (hup.2 he)
  · obtain ⟨hc, hm⟩ := components_of_targets ha
    exact ⟨layout.names name, layout.names_ne_nil name, fun n hn => isEntryName_of_mem_names ha hn,
      hc, hm, fun h => Layout.names_of_not_mem h name⟩

end Emitter

end EndpointStubs
