import EndpointStubs.FileTree.Change
import EndpointStubs.Proofs.Keyed
import EndpointStubs.Proofs.Outcome

/-!
# Growth of trees

A tree grows by entries at locations that held nothing. The entries of a tree stand in the order
in which they were made, so a grown tree is the old one with the new entries after it, and the
trees in between are those with some of the new entries.

    t.Grows new u → (u.get? l = some e ↔ t.get? l = some e ∨ (l, e) ∈ new)
    t.Retains u → t.resolve p = .ok l → u.resolve p = .ok l
-/

namespace EndpointStubs.FileTree

/-! ## Trees within trees -/

/-- What is in `t` is still in `u`, a directory as a directory and a file as a file; what the file
holds may be something else. -/
structure Retains (t u : FileTree) : Prop where
  cwd : u.cwd = t.cwd
  directory : ∀ l, t.get? l = some .directory → u.get? l = some .directory
  file : ∀ l b, t.get? l = some (.file b) → ∃ b', u.get? l = some (.file b')

theorem Retains.trans {t u v : FileTree} (h : t.Retains u) (k : u.Retains v) : t.Retains v := by
  refine ⟨k.cwd.trans h.cwd, fun l hl => k.directory l (h.directory l hl), fun l b hl => ?_⟩
  obtain ⟨b', hb'⟩ := h.file l b hl
  exact k.file l b' hb'

/-- What is in `t` is in `u`, with the same content. -/
structure Within (t u : FileTree) : Prop where
  cwd : u.cwd = t.cwd
  keeps : ∀ l e, t.get? l = some e → u.get? l = some e

theorem Within.retains {t u : FileTree} (h : t.Within u) : t.Retains u :=
  ⟨h.cwd, fun l hl => h.keeps l _ hl, fun l b hl => ⟨b, h.keeps l _ hl⟩⟩

theorem Within.refl (t : FileTree) : t.Within t := ⟨rfl, fun _ _ h => h⟩

theorem Within.trans {t u v : FileTree} (h : t.Within u) (k : u.Within v) : t.Within v :=
  ⟨k.cwd.trans h.cwd, fun l e he => k.keeps l e (h.keeps l e he)⟩

theorem Within.get?_ne_none {t u : FileTree} (h : t.Within u) {l : Location}
    (hl : t.get? l ≠ none) : u.get? l ≠ none := by
  obtain ⟨e, he⟩ := Option.ne_none_iff_exists'.1 hl
  rw [h.keeps l e he]
  simp

theorem requireDirectory_eq_ok_iff {t : FileTree} {l : Location} {x : Unit} :
    t.requireDirectory l = .ok x ↔ t.get? l = some .directory := by
  unfold requireDirectory
  split <;> simp_all

/-- What a step does in a directory. -/
theorem step_of_directory {t : FileTree} {l : Location} (h : t.get? l = some .directory)
    (piece : List Char) :
    t.step l piece =
      if Path.isFiller piece then .ok l
      else if piece = ['.', '.'] then .ok l.dropLast
      else if byteCount piece > maxName then .error .nameTooLong
      else .ok (l ++ [String.ofList piece]) := by
  have hd : t.requireDirectory l = .ok () := requireDirectory_eq_ok_iff.2 h
  unfold step
  rw [hd]
  simp only [bind, Except.bind, pure, Except.pure, throw, throwThe, MonadExceptOf.throw]

/-- A step is only possible in a directory. -/
theorem directory_of_step {t : FileTree} {l k : Location} {piece : List Char}
    (h : t.step l piece = .ok k) : t.get? l = some .directory := by
  obtain ⟨_, hd, -⟩ := Outcome.bind_eq_ok_iff.1 h
  exact requireDirectory_eq_ok_iff.1 hd

theorem Retains.step {t u : FileTree} (h : t.Retains u) {l k : Location} {piece : List Char}
    (hs : t.step l piece = .ok k) : u.step l piece = .ok k := by
  have hd := directory_of_step hs
  rw [step_of_directory (h.directory _ hd), ← step_of_directory hd, hs]

theorem Within.step {t u : FileTree} (h : t.Within u) {l k : Location} {piece : List Char}
    (hs : t.step l piece = .ok k) : u.step l piece = .ok k :=
  h.retains.step hs

theorem follow_cons_eq_ok_iff {t : FileTree} {l k : Location} {piece : List Char}
    {pieces : List (List Char)} :
    t.follow l (piece :: pieces) = .ok k ↔
      ∃ m, t.step l piece = .ok m ∧ t.follow m pieces = .ok k := by
  rw [follow]
  exact Outcome.bind_eq_ok_iff

theorem follow_append_eq_ok_iff {t : FileTree} {l k : Location} {p q : List (List Char)} :
    t.follow l (p ++ q) = .ok k ↔ ∃ m, t.follow l p = .ok m ∧ t.follow m q = .ok k := by
  rw [follow_append]
  exact Outcome.bind_eq_ok_iff

/-- A path can still be followed when directories are kept. -/
theorem Retains.follow {t u : FileTree} (h : t.Retains u) {l k : Location} {p : List (List Char)}
    (hf : t.follow l p = .ok k) : u.follow l p = .ok k := by
  induction p generalizing l with
  | nil => exact hf
  | cons a p ih =>
    obtain ⟨m, hs, hm⟩ := follow_cons_eq_ok_iff.1 hf
    exact follow_cons_eq_ok_iff.2 ⟨m, h.step hs, ih hm⟩

theorem Within.follow {t u : FileTree} (h : t.Within u) {l k : Location} {p : List (List Char)}
    (hf : t.follow l p = .ok k) : u.follow l p = .ok k :=
  h.retains.follow hf

theorem get?_start {t : FileTree} (hcwd : t.get? t.cwd = some .directory) (p : Path) :
    t.get? (t.start p) = some .directory := by
  unfold start
  split
  · rfl
  · exact hcwd

theorem Retains.start {t u : FileTree} (h : t.Retains u) (p : Path) : u.start p = t.start p := by
  unfold FileTree.start
  rw [h.cwd]

theorem Within.start {t u : FileTree} (h : t.Within u) (p : Path) : u.start p = t.start p :=
  h.retains.start p

theorem resolve_eq_ok_iff {t : FileTree} {p : Path} {l : Location} :
    t.resolve p = .ok l ↔ checkText p = .ok () ∧ t.follow (t.start p) p.body = .ok l := by
  unfold resolve
  rw [Outcome.bind_eq_ok_iff]
  exact ⟨fun ⟨_, h⟩ => h, fun h => ⟨(), h⟩⟩

theorem Retains.resolve {t u : FileTree} (h : t.Retains u) {p : Path} {l : Location}
    (hr : t.resolve p = .ok l) : u.resolve p = .ok l := by
  obtain ⟨hc, hf⟩ := resolve_eq_ok_iff.1 hr
  refine resolve_eq_ok_iff.2 ⟨hc, ?_⟩
  rw [h.start]
  exact h.follow hf

theorem Within.resolve {t u : FileTree} (h : t.Within u) {p : Path} {l : Location}
    (hr : t.resolve p = .ok l) : u.resolve p = .ok l :=
  h.retains.resolve hr

theorem lookup_eq_ok_iff {t : FileTree} {p : Path} {l : Location} {e : Entry} :
    t.lookup p = .ok (l, e) ↔ t.resolve p = .ok l ∧ t.get? l = some e := by
  unfold lookup
  rw [Outcome.bind_eq_ok_iff]
  constructor
  · rintro ⟨k, hr, hk⟩
    split at hk
    · rename_i x hx
      obtain ⟨rfl, rfl⟩ := Prod.mk.inj (Except.ok.inj hk)
      exact ⟨hr, hx⟩
    · cases hk
  · rintro ⟨hr, he⟩
    refine ⟨l, hr, ?_⟩
    simp only [he]
    rfl

/-- What is found in a tree is found in a larger one. -/
theorem Within.lookup {t u : FileTree} (h : t.Within u) {p : Path} {x : Location × Entry}
    (hl : t.lookup p = .ok x) : u.lookup p = .ok x := by
  obtain ⟨hr, he⟩ := lookup_eq_ok_iff.1 hl
  exact lookup_eq_ok_iff.2 ⟨h.resolve hr, h.keeps _ _ he⟩

/-- The path of a file still leads to a file. -/
theorem Retains.lookup_file {t u : FileTree} (h : t.Retains u) {p : Path} {l : Location}
    {b : ByteArray} (hl : t.lookup p = .ok (l, .file b)) : ∃ b', u.lookup p = .ok (l, .file b') := by
  obtain ⟨hr, hb⟩ := lookup_eq_ok_iff.1 hl
  obtain ⟨b', hb'⟩ := h.file l b hb
  exact ⟨b', lookup_eq_ok_iff.2 ⟨h.resolve hr, hb'⟩⟩

/-! ## Growth -/

/-- `u` is `t` with new entries, made in this order where nothing was. -/
structure Grows (t : FileTree) (new : List (Location × Entry)) (u : FileTree) : Prop where
  eq : u = { t with entries := t.entries ++ new }
  fresh : ∀ x ∈ new, t.get? x.1 = none
  nodup : (new.map Prod.fst).Nodup

theorem Grows.refl (t : FileTree) : t.Grows [] t := ⟨by simp, by simp, by simp⟩

theorem ne_nil_of_get?_eq_none {t : FileTree} {l : Location} (h : t.get? l = none) : l ≠ [] := by
  rintro rfl
  simp [get?] at h

theorem grows_insert {t : FileTree} {l : Location} (h : t.get? l = none) (e : Entry) :
    t.Grows [(l, e)] (t.insert l e) :=
  ⟨rfl, by simpa using h, by simp⟩

section

variable {t u v : FileTree} {new new' : List (Location × Entry)}

theorem Grows.cwd (h : t.Grows new u) : u.cwd = t.cwd := by rw [h.eq]

theorem Grows.entries (h : t.Grows new u) : u.entries = t.entries ++ new := by rw [h.eq]

/-- An entry of a grown tree is old or among the new ones. -/
theorem Grows.get?_eq_some_iff (h : t.Grows new u) {l : Location} {e : Entry} :
    u.get? l = some e ↔ t.get? l = some e ∨ (l, e) ∈ new := by
  by_cases hl : l = []
  · subst hl
    have hn : ([], e) ∉ new := fun hm => ne_nil_of_get?_eq_none (h.fresh _ hm) rfl
    simp [get?, hn]
  · rw [h.eq]
    simp only [get?, hl, if_false, List.find?_append, Option.map_eq_some_iff]
    cases ht : t.entries.find? fun x => x.1 = l with
    | some x =>
      have hn : (l, e) ∉ new := by
        intro hm
        have := h.fresh _ hm
        simp [get?, hl, ht] at this
      simp [hn]
    | none =>
      simp only [Option.none_or, reduceCtorEq, false_and, exists_false, false_or]
      constructor
      · rintro ⟨x, hx, rfl⟩
        have hk : x.1 = l := by simpa using List.find?_some hx
        exact hk ▸ List.mem_of_find?_eq_some hx
      · intro hm
        exact ⟨_, Keyed.find?_of_mem h.nodup hm, rfl⟩

/-- Nothing is where nothing was and nothing was added. -/
theorem Grows.get?_eq_none_iff (h : t.Grows new u) {l : Location} :
    u.get? l = none ↔ t.get? l = none ∧ l ∉ new.map Prod.fst := by
  simp only [Option.eq_none_iff_forall_ne_some, ne_eq, h.get?_eq_some_iff, not_or, List.mem_map,
    Prod.exists, exists_and_right, exists_eq_right, not_exists]
  exact forall_and

theorem Grows.within (h : t.Grows new u) : t.Within u :=
  ⟨h.cwd, fun _ _ he => h.get?_eq_some_iff.2 (.inl he)⟩

theorem Grows.trans (h : t.Grows new u) (k : u.Grows new' v) : t.Grows (new ++ new') v := by
  refine ⟨?_, ?_, ?_⟩
  · rw [k.eq, h.eq, List.append_assoc]
  · intro x hx
    rcases List.mem_append.1 hx with hx | hx
    · exact h.fresh x hx
    · exact (h.get?_eq_none_iff.1 (k.fresh x hx)).1
  · rw [List.map_append, List.nodup_append]
    refine ⟨h.nodup, k.nodup, ?_⟩
    rintro l hl _ hl' rfl
    obtain ⟨x, hx, rfl⟩ := List.mem_map.1 hl'
    exact (h.get?_eq_none_iff.1 (k.fresh x hx)).2 hl

/-- The trees that growth passes through. -/
theorem Grows.of_prefix (h : t.Grows new u) (hv : new' <+: new) :
    t.Grows new' { t with entries := t.entries ++ new' } :=
  ⟨rfl, fun x hx => h.fresh x (hv.subset hx), h.nodup.sublist (hv.sublist.map _)⟩

end

end EndpointStubs.FileTree
