import EndpointStubs.Emit.Layout
import EndpointStubs.Proofs.Path.Derived

/-!
# Paths of names

The path of a name goes on from the root by names: a directory per package segment and the simple
name, with what the extension adds to it. An extension with slashes adds further components, and
these are names unless one of them is `..`.

    l.path name = .ok p → p.components = l.root.components ++ (l.names name).map .normal
                                                                      if no later piece is `..`
-/

namespace EndpointStubs

namespace QualifiedName

/-- A segment holds neither a slash nor a dot. -/
theorem ne_of_isSegmentChar {c : Char} (h : isSegmentChar c = true) : c ≠ '/' ∧ c ≠ '.' := by
  constructor
  · rintro rfl
    revert h
    decide
  · rintro rfl
    revert h
    decide

theorem exists_of_isSegment {s : String} (h : isSegment s = true) :
    (∃ c cs, s.toList = c :: cs ∧ c ≠ '.') ∧ '/' ∉ s.toList := by
  simp only [isSegment, ne_eq, Bool.and_eq_true, decide_eq_true_eq, List.all_eq_true] at h
  obtain ⟨hne, hall⟩ := h
  constructor
  · obtain ⟨c, cs, hs⟩ := List.exists_cons_of_ne_nil (show s.toList ≠ [] by simpa using hne)
    exact ⟨c, cs, hs, (ne_of_isSegmentChar (hall c (hs ▸ List.mem_cons_self))).2⟩
  · intro hm
    exact (ne_of_isSegmentChar (hall _ hm)).1 rfl

theorem dot_not_mem_of_isSegment {s : String} (h : isSegment s = true) : '.' ∉ s.toList := by
  intro hm
  simp only [isSegment, Bool.and_eq_true, List.all_eq_true] at h
  exact (ne_of_isSegmentChar (h.2 _ hm)).2 rfl

theorem segments_ne_nil (name : String) : segments name ≠ [] := by
  simp [segments, Text.splitString, Text.pieces_ne_nil]

theorem segments_of_not_mem {s : String} (h : '.' ∉ s.toList) : segments s = [s] := by
  simp [segments, Text.splitString, Text.pieces_of_not_mem h]

/-- The directories that a package stands for, from the root down: none for the empty one. -/
def folders (package : String) : List String := if package = "" then [] else segments package

/-- A qualified name has the segments of its package first. -/
theorem segments_qualify (package simple : String) :
    segments (qualify package simple) = folders package ++ segments simple := by
  unfold qualify folders
  split
  · rfl
  · simp [segments, Text.splitString, Text.pieces_append]

theorem map_toList_segments (name : String) :
    (segments name).map String.toList = Text.pieces '.' name.toList := by
  simp [segments, Text.splitString, Function.comp_def]

/-- A name is what its segments make with dots between them. -/
theorem toList_eq_of_segments {name : String} {ss : List String} (h : segments name = ss) :
    name.toList = Text.join ['.'] (ss.map String.toList) := by
  rw [← h, map_toList_segments, Text.join_pieces]

theorem segments_injective {a b : String} (h : segments a = segments b) : a = b :=
  String.toList_inj.1 ((toList_eq_of_segments h).trans (toList_eq_of_segments rfl).symm)

theorem segments_eq_singleton {name s : String} (h : segments name = [s]) :
    name = s :=
  String.toList_inj.1 (toList_eq_of_segments h)

theorem isSegment_getLast {name : String} (h : (segments name).all isSegment = true) :
    isSegment ((segments name).getLast?.getD "") = true := by
  rw [List.getLast?_eq_some_getLast (segments_ne_nil name)]
  exact List.all_eq_true.1 h _ (List.getLast_mem _)

end QualifiedName

namespace Path

/-! ## Paths of segments -/

theorem isFiller_cons_append {c : Char} (h : c ≠ '.') (cs : List Char) :
    isFiller (c :: cs) = false := by
  simp [isFiller, h]

/-- A path that starts with a segment has no head and starts with a name. -/
theorem components_segment_append {s : String} (h : QualifiedName.isSegment s = true)
    {e x : List Char} {rest : List (List Char)} (he : Text.pieces '/' e = x :: rest) :
    (Path.mk (s ++ String.ofList e)).head = .none ∧
      (Path.mk (s ++ String.ofList e)).components =
        .normal (s ++ String.ofList x) :: bodyComponents rest := by
  obtain ⟨⟨c, cs, hs, hc⟩, hslash⟩ := QualifiedName.exists_of_isSegment h
  have hf : ∀ y, isFiller (s.toList ++ y) = false := by
    intro y
    rw [hs]
    exact isFiller_cons_append hc _
  have hhead : (Path.mk (s ++ String.ofList e)).head = .none := by
    unfold head
    rw [String.toList_append, cutHead_append_of_counts (by simpa using hf []) hslash]
  refine ⟨hhead, ?_⟩
  have hdots : s.toList ++ x ≠ ['.', '.'] := by
    rw [hs]
    simp [hc]
  rw [components_of_head_eq_none hhead, String.toList_append, String.toList_ofList,
    Text.pieces_append_of_not_mem hslash, he]
  simp only
  rw [bodyComponents_cons (hf x)]
  simp only [pieceComponent, hdots, if_false, List.cons.injEq, and_true, Component.normal.injEq]
  rw [← String.toList_inj]
  simp

/-- A segment is one component, a name. -/
theorem components_segment {s : String} (h : QualifiedName.isSegment s = true) :
    (Path.mk s).head = .none ∧ (Path.mk s).components = [.normal s] := by
  have := components_segment_append h (e := []) rfl
  simpa using this

/-- Pieces have only names as components if none of them is `..`. -/
theorem bodyComponents_of_not_mem {b : List (List Char)} (h : ['.', '.'] ∉ b) :
    bodyComponents b = ((b.filter fun x => !isFiller x).map String.ofList).map .normal := by
  rw [bodyComponents, List.map_map]
  refine List.map_congr_left fun x hx => ?_
  have hne : x ≠ ['.', '.'] := by
    rintro rfl
    exact h (List.mem_filter.1 hx).1
  simp [pieceComponent, hne]

end Path

namespace Layout

/-! ## Files -/

/-- What the extension adds to a simple name, cut at slashes. -/
def ending (l : Layout) : List (List Char) :=
  Text.pieces '/' (if l.extension = "" then [] else '.' :: l.extension.toList)

/-- The names of a path below the root: those of the packages, the simple name with its ending,
and the names that the extension adds after a slash. -/
def names (l : Layout) (name : String) : List String :=
  (QualifiedName.segments name).dropLast ++
    ((QualifiedName.segments name).getLast?.getD "" ++ String.ofList (l.ending.headD [])) ::
      (l.ending.tail.filter fun x => !Path.isFiller x).map String.ofList

theorem names_ne_nil (l : Layout) (name : String) : l.names name ≠ [] := by
  simp [names]

theorem components_foldl_join (root : Path) {packages : List String}
    (h : ∀ s ∈ packages, QualifiedName.isSegment s = true) :
    (packages.foldl (fun p s => p.join ⟨s⟩) root).components =
      root.components ++ packages.map .normal := by
  induction packages generalizing root with
  | nil => simp
  | cons s packages ih =>
    obtain ⟨hh, hc⟩ := Path.components_segment (h s List.mem_cons_self)
    rw [List.foldl_cons, ih _ fun x hx => h x (List.mem_cons_of_mem _ hx), Path.components_join hh,
      hc]
    simp

/-- The file name is one component, unless the extension holds slashes. -/
theorem components_fileName (l : Layout) {s : String} (h : QualifiedName.isSegment s = true) :
    (Path.mk (l.fileName s)).head = .none ∧ (Path.mk (l.fileName s)).components =
      .normal (s ++ String.ofList (l.ending.headD [])) :: Path.bodyComponents l.ending.tail := by
  obtain ⟨x, rest, hx⟩ : ∃ x rest, l.ending = x :: rest :=
    List.exists_cons_of_ne_nil (Text.pieces_ne_nil _ _)
  have hname : l.fileName s =
      s ++ String.ofList (if l.extension = "" then [] else '.' :: l.extension.toList) := by
    unfold fileName
    rw [← String.toList_inj]
    split <;> simp
  rw [hname, hx]
  exact Path.components_segment_append h hx

theorem path_eq_ok_iff {l : Layout} {name : String} {p : Path} :
    l.path name = .ok p ↔ (QualifiedName.segments name).all QualifiedName.isSegment = true ∧
      p = ((QualifiedName.segments name).dropLast.foldl (fun p s => p.join ⟨s⟩) l.root).join
        ⟨l.fileName ((QualifiedName.segments name).getLast?.getD "")⟩ := by
  unfold path
  by_cases h : (QualifiedName.segments name).all QualifiedName.isSegment = true
  · simp [h, eq_comm]
  · simp [h]

theorem path_eq_error_iff {l : Layout} {name : String} {e : EmitError} :
    l.path name = .error e ↔ e = .invalidName name ∧
      ¬(QualifiedName.segments name).all QualifiedName.isSegment = true := by
  unfold path
  by_cases h : (QualifiedName.segments name).all QualifiedName.isSegment = true
  · simp [h]
  · simp [h, eq_comm]

theorem components_path {l : Layout} {name : String} {p : Path} (h : l.path name = .ok p) :
    p.components = l.root.components ++ ((QualifiedName.segments name).dropLast.map .normal ++
      .normal ((QualifiedName.segments name).getLast?.getD "" ++
        String.ofList (l.ending.headD [])) :: Path.bodyComponents l.ending.tail) := by
  obtain ⟨hall, rfl⟩ := path_eq_ok_iff.1 h
  obtain ⟨hh, hc⟩ := l.components_fileName (QualifiedName.isSegment_getLast hall)
  rw [Path.components_join hh, components_foldl_join _ fun s hs =>
    List.all_eq_true.1 hall s (List.dropLast_subset _ hs), hc, List.append_assoc]

/-- Without `..` in the extension a path goes on from the root by names. -/
theorem components_path_of_not_mem {l : Layout} {name : String} {p : Path}
    (h : l.path name = .ok p) (he : ['.', '.'] ∉ l.ending.tail) :
    p.components = l.root.components ++ (l.names name).map .normal := by
  rw [components_path h, Path.bodyComponents_of_not_mem he]
  simp [names]

theorem text_isPrefix_foldl_join (root : Path) {packages : List String}
    (h : ∀ s ∈ packages, QualifiedName.isSegment s = true) :
    root.text.toList <+: (packages.foldl (fun p s => p.join ⟨s⟩) root).text.toList := by
  induction packages generalizing root with
  | nil => exact List.prefix_refl _
  | cons s packages ih =>
    have hh := (Path.components_segment (h s List.mem_cons_self)).1
    exact (Path.text_isPrefix_join hh).trans (ih _ fun x hx => h x (List.mem_cons_of_mem _ hx))

theorem text_isPrefix_path {l : Layout} {name : String} {p : Path} (h : l.path name = .ok p) :
    l.root.text.toList <+: p.text.toList := by
  obtain ⟨hall, rfl⟩ := path_eq_ok_iff.1 h
  have hh := (l.components_fileName (QualifiedName.isSegment_getLast hall)).1
  refine (text_isPrefix_foldl_join l.root fun s hs => ?_).trans (Path.text_isPrefix_join hh)
  exact List.all_eq_true.1 hall s (List.dropLast_subset _ hs)

theorem names_qualify (l : Layout) (package simple : String) :
    l.names (QualifiedName.qualify package simple) =
      QualifiedName.folders package ++ l.names simple := by
  have hne := QualifiedName.segments_ne_nil simple
  unfold names
  rw [QualifiedName.segments_qualify, List.dropLast_append_of_ne_nil hne, List.getLast?_append,
    List.getLast?_eq_some_getLast hne, Option.some_or, List.append_assoc]

/-- A name whose path starts the path of a segment is that segment. -/
theorem eq_of_names_isPrefix {l : Layout} {name s : String} (hs : QualifiedName.segments s = [s])
    (h : l.names name <+: l.names s) : name = s := by
  unfold names at h
  rw [hs] at h
  have hlen := h.length_le
  have hne := QualifiedName.segments_ne_nil name
  simp only [List.length_append, List.length_cons, List.dropLast_singleton, List.length_nil] at hlen
  obtain ⟨x, hx⟩ : ∃ x, QualifiedName.segments name = [x] := by
    refine List.length_eq_one_iff.1 ?_
    have hpos := List.length_pos_iff.2 hne
    rw [List.length_dropLast] at hlen
    omega
  rw [hx] at h
  simp only [List.dropLast_singleton, List.nil_append, List.getLast?_singleton, Option.getD_some,
    List.cons_prefix_cons] at h
  have hxs : x = s := by
    have := congrArg String.toList h.1
    rw [String.toList_append, String.toList_append] at this
    exact String.toList_inj.1 (List.append_cancel_right this)
  rw [hxs] at hx
  exact QualifiedName.segments_eq_singleton hx

end Layout

end EndpointStubs
