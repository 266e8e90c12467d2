import EndpointStubs.Proofs.Emit.Confined

/-!
# Names and their paths

Two names have two paths, whatever root and extension are. With an extension the last name of a
path has a dot, which the names of directories do not have, so no path goes on from another one;
without one, paths go on from each other as their names do.

    p.components = q.components ↔ a = b
    p.components <+: q.components ↔ a = b                            with an extension
    p.components <+: q.components ↔ segments a <+: segments b        without one
-/

namespace EndpointStubs

namespace Layout

variable {α : Type} {f : String → α} {l : Layout} {a b : String} {p q : Path}

/-! ## Directories and files -/

/-- A file name that ends in `e` is no name of a directory. -/
theorem append_ne {s t e : String} (he : '.' ∈ e.toList) (ht : '.' ∉ t.toList) : s ++ e ≠ t := by
  rintro rfl
  apply ht
  rw [String.toList_append]
  exact List.mem_append_right _ he

-- The induction is on the directories of the first path; where they end, its file has to meet the
-- file of the second path and no directory.
/-- Names without dots and a file name with one: the dot tells where the folders end. -/
theorem eq_of_isPrefix (hf : Function.Injective f) {ps qs : List String} {s t e : String}
    {tail : List α} (he : '.' ∈ e.toList) (hps : ∀ x ∈ ps, '.' ∉ x.toList)
    (hqs : ∀ x ∈ qs, '.' ∉ x.toList)
    (h : ps.map f ++ f (s ++ e) :: tail <+: qs.map f ++ f (t ++ e) :: tail) :
    ps = qs ∧ s = t := by
  induction ps generalizing qs with
  | nil =>
    cases qs with
    | nil =>
      have hlast : s ++ e = t ++ e := hf (List.cons_prefix_cons.1 h).1
      refine ⟨rfl, String.toList_inj.1 ?_⟩
      have := congrArg String.toList hlast
      rw [String.toList_append, String.toList_append] at this
      exact List.append_cancel_right this
    | cons y qs =>
      have hfirst : s ++ e = y := hf (List.cons_prefix_cons.1 h).1
      exact absurd hfirst (append_ne he (hqs y List.mem_cons_self))
  | cons x ps ih =>
    cases qs with
    | nil =>
      have hfirst : x = t ++ e := hf (List.cons_prefix_cons.1 h).1
      exact absurd hfirst.symm (append_ne he (hps x List.mem_cons_self))
    | cons y qs =>
      obtain ⟨hfirst, hrest⟩ := List.cons_prefix_cons.1 h
      obtain rfl : x = y := hf hfirst
      obtain ⟨rfl, rfl⟩ := ih (fun z hz => hps z (List.mem_cons_of_mem _ hz))
        (fun z hz => hqs z (List.mem_cons_of_mem _ hz)) hrest
      exact ⟨rfl, rfl⟩

/-! ## Endings -/

theorem ending_of_no_extension (h : l.extension = "") : l.ending = [[]] := by
  unfold ending
  rw [if_pos h]
  rfl

/-- The dot of an extension stands in front of its first slash. -/
theorem dot_mem_ending (h : l.extension ≠ "") : '.' ∈ l.ending.headD [] := by
  unfold ending
  rw [if_neg h]
  obtain ⟨x, xs, hx⟩ := List.exists_cons_of_ne_nil (Text.pieces_ne_nil '/' l.extension.toList)
  simp [Text.pieces, hx]

/-! ## Paths -/

theorem segments_eq_append (name : String) :
    QualifiedName.segments name = (QualifiedName.segments name).dropLast ++
      [(QualifiedName.segments name).getLast?.getD ""] := by
  have hne := QualifiedName.segments_ne_nil name
  rw [List.getLast?_eq_some_getLast hne]
  exact (List.dropLast_append_getLast hne).symm

theorem dot_not_mem_of_path (h : l.path a = .ok p) :
    ∀ s ∈ (QualifiedName.segments a).dropLast, '.' ∉ s.toList := by
  intro s hs
  have hall := (path_eq_ok_iff.1 h).1
  exact QualifiedName.dot_not_mem_of_isSegment
    (List.all_eq_true.1 hall s (List.dropLast_subset _ hs))

/-- With an extension no path goes on from another one. -/
theorem eq_of_components_isPrefix (he : l.extension ≠ "") (ha : l.path a = .ok p)
    (hb : l.path b = .ok q) (h : p.components <+: q.components) : a = b := by
  rw [components_path ha, components_path hb, List.prefix_append_right_inj] at h
  have hdot : '.' ∈ (String.ofList (l.ending.headD [])).toList := by
    rw [String.toList_ofList]
    exact dot_mem_ending he
  obtain ⟨hpackages, hsimple⟩ := eq_of_isPrefix (fun _ _ => Path.Component.normal.inj) hdot
    (dot_not_mem_of_path ha) (dot_not_mem_of_path hb) h
  apply QualifiedName.segments_injective
  rw [segments_eq_append a, segments_eq_append b, hpackages, hsimple]

/-- Without an extension a path has the segments of its name below the root. -/
theorem components_path_of_no_extension (he : l.extension = "") (ha : l.path a = .ok p) :
    p.components = l.root.components ++ (QualifiedName.segments a).map .normal := by
  rw [components_path ha, ending_of_no_extension he]
  conv => rhs; rw [segments_eq_append a]
  simp

theorem map_normal_isPrefix_iff {xs ys : List String} :
    xs.map Path.Component.normal <+: ys.map .normal ↔ xs <+: ys := by
  constructor
  · intro h
    obtain ⟨zs, hzs, heq⟩ := List.prefix_map_iff.1 h
    rwa [List.map_injective_iff.2 (fun _ _ => Path.Component.normal.inj) heq]
  · exact fun h => h.map _

theorem components_isPrefix_iff_of_no_extension (he : l.extension = "") (ha : l.path a = .ok p)
    (hb : l.path b = .ok q) :
    p.components <+: q.components ↔ QualifiedName.segments a <+: QualifiedName.segments b := by
  rw [components_path_of_no_extension he ha, components_path_of_no_extension he hb,
    List.prefix_append_right_inj, map_normal_isPrefix_iff]

/-- Names with the same path are the same. -/
theorem eq_of_components_eq (ha : l.path a = .ok p) (hb : l.path b = .ok q)
    (h : p.components = q.components) : a = b := by
  by_cases he : l.extension = ""
  · apply QualifiedName.segments_injective
    have hab := (components_isPrefix_iff_of_no_extension he ha hb).1 (h ▸ List.prefix_refl _)
    have hba := (components_isPrefix_iff_of_no_extension he hb ha).1 (h ▸ List.prefix_refl _)
    exact hab.eq_of_length_le hba.length_le
  · exact eq_of_components_isPrefix he ha hb (h ▸ List.prefix_refl _)

end Layout

/-! ## Artifacts -/

namespace Emitter

variable {generated counterpart : Path} {extension a b : String} {x y : Artifact}

/-- Either file of an artifact lies to that of another one, from wherever they are seen, as the
components of the paths do. -/
theorem place_isPrefix_iff {file : Artifact → Path}
    (hfile : file ∈ [Artifact.canonical, Artifact.counterpart])
    (hx : (ofRoots generated counterpart extension).targets a = .ok x)
    (hy : (ofRoots generated counterpart extension).targets b = .ok y) (cwd : Location) :
    (file x).place cwd <+: (file y).place cwd ↔
      x.canonical.components <+: y.canonical.components := by
  obtain ⟨hcanonical, hcounterpart⟩ := place_of_targets cwd hx
  obtain ⟨hcanonical', hcounterpart'⟩ := place_of_targets cwd hy
  rw [(components_of_targets hx).1, (components_of_targets hy).1, List.prefix_append_right_inj,
    Layout.map_normal_isPrefix_iff]
  simp only [List.mem_cons, List.not_mem_nil, or_false] at hfile
  rcases hfile with rfl | rfl
  · rw [hcanonical, hcanonical', List.prefix_append_right_inj]
  · rw [hcounterpart, hcounterpart', List.prefix_append_right_inj]

end Emitter

namespace Layout

variable {l : Layout} {a b : String} {p q : Path}

/-- Different names have different paths and, with an extension, none of them goes on from another
one; without an extension it does exactly if its name goes on from the other name. What holds of
the paths holds of the places of both files of the artifacts that are written there. -/
theorem paths_of_names_apart (ha : l.path a = .ok p) (hb : l.path b = .ok q) :
    (p.components = q.components ↔ a = b) ∧
    (l.extension ≠ "" → (p.components <+: q.components ↔ a = b)) ∧
    (l.extension = "" → (p.components <+: q.components ↔
      QualifiedName.segments a <+: QualifiedName.segments b)) ∧
    ∀ counterpart x y, (Emitter.ofRoots l.root counterpart l.extension).targets a = .ok x →
      (Emitter.ofRoots l.root counterpart l.extension).targets b = .ok y →
      ∀ file ∈ [Artifact.canonical, Artifact.counterpart], ∀ cwd,
        ((file x).place cwd = (file y).place cwd ↔ a = b) ∧
        ((file x).place cwd <+: (file y).place cwd ↔ p.components <+: q.components) := by
  refine ⟨?_, ?_, fun he => components_isPrefix_iff_of_no_extension he ha hb, ?_⟩
  · constructor
    · exact eq_of_components_eq ha hb
    · rintro rfl
      rw [Except.ok.inj (ha.symm.trans hb)]
  · intro he
    constructor
    · exact eq_of_components_isPrefix he ha hb
    · rintro rfl
      obtain rfl : p = q := Except.ok.inj (ha.symm.trans hb)
      exact List.prefix_refl _
  · intro counterpart x y hx hy file hfile cwd
    obtain ⟨-, hpx, -⟩ := Emitter.targets_eq_ok_iff.1 hx
    obtain ⟨-, hpy, -⟩ := Emitter.targets_eq_ok_iff.1 hy
    obtain rfl : x.canonical = p := Except.ok.inj (hpx.symm.trans ha)
    obtain rfl : y.canonical = q := Except.ok.inj (hpy.symm.trans hb)
    have hxy := Emitter.place_isPrefix_iff hfile hx hy cwd
    have hyx := Emitter.place_isPrefix_iff hfile hy hx cwd
    refine ⟨⟨fun h => ?_, ?_⟩, hxy⟩
    · have hle := hxy.1 (h ▸ List.prefix_refl _)
      have hge := hyx.1 (h ▸ List.prefix_refl _)
      exact eq_of_components_eq ha hb (hle.eq_of_length_le hge.length_le)
    · rintro rfl
      rw [Except.ok.inj (hx.symm.trans hy)]

/-- The stub of a class and one in a package of the same name. -/
theorem paths_of_names_apart_nested :
    let l : Layout := ⟨⟨"out"⟩, "rs"⟩
    let p : Path := ⟨"out/com/A.rs"⟩
    let q : Path := ⟨"out/com/A/A.rs"⟩
    l.path "com.A" = .ok p ∧ l.path "com.A.A" = .ok q ∧ p.components ≠ q.components ∧
      ¬ p.components <+: q.components := by
  intro l p q
  have ha : l.path "com.A" = .ok p := by decide +kernel
  have hb : l.path "com.A.A" = .ok q := by decide +kernel
  obtain ⟨heq, hbelow, -⟩ := paths_of_names_apart ha hb
  refine ⟨ha, hb, ?_, ?_⟩
  · rw [ne_eq, heq]
    decide
  · rw [hbelow (by decide)]
    decide

end Layout

end EndpointStubs
