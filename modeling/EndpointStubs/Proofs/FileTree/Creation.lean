import EndpointStubs.Proofs.FileTree.Place

/-!
# New entries

A new directory or file is put at the place of its path, where nothing was. It is refused as
already there exactly if the path leads to something; a path whose last name is followed by a
slash is refused as a file on other grounds.

    t.createDirectory p = .ok u → u = t.insert (p.place t.cwd) .directory
    t.createFile p bytes = .ok u → u = t.insert (p.place t.cwd) (.file bytes)
    t.createFile p bytes = .error .alreadyExists ↔ t.pathExists p ∧ ¬p.namesDirectory
-/

namespace EndpointStubs.FileTree

open EndpointStubs.Path (bodyComponents isFiller)

variable {t u : FileTree} {p : Path} {l k : Location}

/-! ## The last piece -/

/-- The last piece has text, and behind it there are only slashes. -/
theorem eq_of_lastPiece? {b before : List (List Char)} {piece : List Char} {slash : Bool}
    (h : lastPiece? b = some (before, piece, slash)) :
    ∃ tail, b = before ++ piece :: tail ∧ (∀ x ∈ tail, x = []) ∧ piece ≠ [] ∧
      (slash = true ↔ tail ≠ []) := by
  unfold lastPiece? at h
  split at h
  · cases h
  · rename_i x xs hx
    simp only [Option.some.injEq, Prod.mk.injEq] at h
    obtain ⟨rfl, rfl, rfl⟩ := h
    have hb : b = xs.reverse ++ x :: (b.reverse.takeWhile List.isEmpty).reverse := by
      have hrev := List.takeWhile_append_dropWhile (p := List.isEmpty) (l := b.reverse)
      rw [hx] at hrev
      simpa using (congrArg List.reverse hrev).symm
    have htail : ∀ y ∈ (b.reverse.takeWhile List.isEmpty).reverse, y = [] := fun y hy =>
      List.isEmpty_iff.1 (List.all_eq_true.1 List.all_takeWhile y (List.mem_reverse.1 hy))
    have hne : x ≠ [] := by
      have := List.head?_dropWhile_not List.isEmpty b.reverse
      rw [hx] at this
      simpa using this
    refine ⟨_, hb, htail, hne, ?_⟩
    generalize (b.reverse.takeWhile List.isEmpty).reverse = tail at hb htail
    rw [decide_eq_true_eq, hb]
    rcases List.eq_nil_or_concat tail with rfl | ⟨ys, y, rfl⟩
    · simp [hne]
    · have : y = [] := htail y (by simp)
      rw [List.concat_eq_append, ← List.cons_append, ← List.append_assoc, List.getLast?_concat,
        this]
      simp

/-- Pieces that count for nothing stay in a directory. -/
theorem follow_of_fillers (hl : t.get? l = some .directory) {tail : List (List Char)}
    (h : ∀ x ∈ tail, isFiller x = true) : t.follow l tail = .ok l := by
  induction tail with
  | nil => rfl
  | cons x tail ih =>
    refine follow_cons_eq_ok_iff.2 ⟨l, ?_, ih fun y hy => h y (List.mem_cons_of_mem _ hy)⟩
    rw [step_of_directory hl, if_pos (h x List.mem_cons_self)]

theorem follow_of_all_empty (hl : t.get? l = some .directory) {tail : List (List Char)}
    (h : ∀ x ∈ tail, x = []) : t.follow l tail = .ok l :=
  follow_of_fillers hl fun x hx => by rw [h x hx]; rfl

/-- A path to a new entry: its last piece that is not empty is a name, and what is before leads to
a directory. -/
structure FreshAt (t : FileTree) (p : Path) (before : List (List Char)) (name : List Char)
    (tail : List (List Char)) (directory : Location) : Prop where
  text : checkText p = .ok ()
  body : p.body = before ++ name :: tail
  tail_empty : ∀ x ∈ tail, x = []
  name_counts : isFiller name = false
  name_ne : name ≠ ['.', '.']
  follow : t.follow (t.start p) before = .ok directory
  directory : t.get? directory = some .directory

/-- What comes of the search for the place of a new entry. -/
inductive Placed (t : FileTree) (p : Path) : Except Fault Place → Prop where
  | badText {f : Fault} (text : checkText p = .error f) : t.Placed p (.error f)
  | noPiece (text : checkText p = .ok ()) (last : lastPiece? p.body = none) :
    t.Placed p (.ok .taken)
  | noWay {before : List (List Char)} {piece : List Char} {slash : Bool} {f : Fault}
    (text : checkText p = .ok ()) (last : lastPiece? p.body = some (before, piece, slash))
    (follow : t.follow (t.start p) before = .error f) : t.Placed p (.error f)
  | noDirectory {before : List (List Char)} {piece : List Char} {slash : Bool} {l : Location}
    {f : Fault} (text : checkText p = .ok ())
    (last : lastPiece? p.body = some (before, piece, slash))
    (follow : t.follow (t.start p) before = .ok l) (directory : t.requireDirectory l = .error f) :
    t.Placed p (.error f)
  | dots {before : List (List Char)} {piece : List Char} {slash : Bool} {l : Location}
    (text : checkText p = .ok ()) (last : lastPiece? p.body = some (before, piece, slash))
    (follow : t.follow (t.start p) before = .ok l) (directory : t.get? l = some .directory)
    (dots : piece = ['.'] ∨ piece = ['.', '.']) : t.Placed p (.ok .taken)
  | fresh {before : List (List Char)} {name : List Char} {slash : Bool} {l : Location}
    (text : checkText p = .ok ()) (last : lastPiece? p.body = some (before, name, slash))
    (follow : t.follow (t.start p) before = .ok l) (directory : t.get? l = some .directory)
    (name_ne_dot : name ≠ ['.']) (name_ne : name ≠ ['.', '.']) :
    t.Placed p (.ok (.fresh l name slash))

theorem placed_placeOf (t : FileTree) (p : Path) : t.Placed p (t.placeOf p) := by
  unfold placeOf
  cases htext : checkText p with
  | error f => exact .badText htext
  | ok _ =>
    cases hlast : lastPiece? p.body with
    | none => exact .noPiece htext hlast
    | some r =>
      obtain ⟨before, piece, slash⟩ := r
      simp only [bind, Except.bind]
      cases hfollow : t.follow (t.start p) before with
      | error f => exact .noWay htext hlast hfollow
      | ok l =>
        cases hl : t.requireDirectory l with
        | error f =>
          simp only [hl]
          exact .noDirectory htext hlast hfollow hl
        | ok _ =>
          have hdirectory := requireDirectory_eq_ok_iff.1 hl
          simp only [hl, Bool.or_eq_true, decide_eq_true_eq]
          split
          · rename_i hdots
            exact .dots htext hlast hfollow hdirectory hdots
          · rename_i hname
            obtain ⟨hdot, hparent⟩ := not_or.1 hname
            exact .fresh htext hlast hfollow hdirectory hdot hparent

/-- Where a new entry goes: the front of the path leads to its directory. -/
theorem freshAt_of_placeOf {directory : Location} {name : List Char} {slash : Bool}
    (h : t.placeOf p = .ok (.fresh directory name slash)) :
    ∃ before tail, t.FreshAt p before name tail directory ∧
      lastPiece? p.body = some (before, name, slash) ∧ (slash = true ↔ tail ≠ []) := by
  have hp := placed_placeOf t p
  rw [h] at hp
  cases hp with
  | @fresh before _ _ _ htext hlast hfollow hdirectory hdot hparent =>
    obtain ⟨tail, hb, ht, hne, hs⟩ := eq_of_lastPiece? hlast
    exact ⟨before, tail, ⟨htext, hb, ht, by simp [isFiller, hne, hdot], hparent, hfollow,
      hdirectory⟩, hlast, hs⟩

section

variable {before tail : List (List Char)} {name : List Char} {directory : Location}

theorem FreshAt.components (h : t.FreshAt p before name tail directory) :
    p.components =
      p.head.components ++ bodyComponents before ++ [.normal (String.ofList name)] := by
  rw [Path.components_eq, h.body, Path.bodyComponents_append,
    Path.bodyComponents_cons h.name_counts, Path.bodyComponents_of_all_empty h.tail_empty,
    List.append_assoc]
  simp [Path.pieceComponent, h.name_ne]

theorem FreshAt.place (h : t.FreshAt p before name tail directory) :
    p.place t.cwd = directory ++ [String.ofList name] := by
  rw [Path.place, h.components, Path.walk_append, ← walk_start, ← eq_walk_of_follow h.follow]
  rfl

theorem FreshAt.step (h : t.FreshAt p before name tail directory) (hn : byteCount name ≤ maxName) :
    t.step directory name = .ok (p.place t.cwd) := by
  rw [step_of_directory h.directory, if_neg (by simp [h.name_counts]), if_neg h.name_ne,
    if_neg (by omega), h.place]

/-- In a larger tree, too, the path of a new entry leads to its place. -/
theorem FreshAt.resolve (h : t.FreshAt p before name tail directory) (hn : byteCount name ≤ maxName)
    (hu : t.Within u) (ht : tail = [] ∨ u.get? (p.place t.cwd) = some .directory) :
    u.resolve p = .ok (p.place t.cwd) := by
  refine resolve_eq_ok_iff.2 ⟨h.text, ?_⟩
  rw [h.body, hu.start]
  refine follow_append_eq_ok_iff.2 ⟨directory, hu.follow h.follow, ?_⟩
  refine follow_cons_eq_ok_iff.2 ⟨_, hu.step (h.step hn), ?_⟩
  rcases ht with rfl | hd
  · rfl
  · exact follow_of_all_empty hd h.tail_empty

end

/-- A name is free if it is short enough and nothing has it. -/
theorem freeLocation_eq_ok_iff {directory : Location} {name : List Char} :
    t.freeLocation directory name = .ok l ↔
      l = directory ++ [String.ofList name] ∧ byteCount name ≤ maxName ∧ t.get? l = none := by
  unfold freeLocation
  split
  · rename_i hn
    simp only [reduceCtorEq, false_iff]
    rintro ⟨-, hshort, -⟩
    omega
  · rename_i hn
    simp only
    split
    · rename_i hl
      simp only [reduceCtorEq, false_iff]
      rintro ⟨rfl, -, hnone⟩
      rw [hnone] at hl
      cases hl
    · rename_i hl
      rw [Bool.not_eq_true, Option.isSome_eq_false_iff, Option.isNone_iff_eq_none] at hl
      simp only [Except.ok.injEq]
      constructor
      · rintro rfl
        exact ⟨rfl, by omega, hl⟩
      · exact fun h => h.1.symm

theorem freeLocation_eq_alreadyExists_iff {directory : Location} {name : List Char} :
    t.freeLocation directory name = .error .alreadyExists ↔
      byteCount name ≤ maxName ∧ ∃ e, t.get? (directory ++ [String.ofList name]) = some e := by
  unfold freeLocation
  rw [← Option.isSome_iff_exists]
  split
  · rename_i hn
    simp only [Except.error.injEq, reduceCtorEq, false_iff]
    rintro ⟨hshort, -⟩
    omega
  · rename_i hn
    simp only
    split
    · rename_i hl
      simpa [hl] using Nat.not_lt.1 hn
    · rename_i hl
      simp [hl]

/-- A new entry is put at the place of its path, and the path leads to it; only a directory may
have slashes after its name. -/
theorem insert_of_placeOf {directory : Location} {name : List Char} {slash : Bool}
    (hp : t.placeOf p = .ok (.fresh directory name slash))
    (hl : t.freeLocation directory name = .ok l) {e : Entry}
    (he : slash = false ∨ e = .directory) :
    l = p.place t.cwd ∧ t.get? l = none ∧ (t.insert l e).lookup p = .ok (l, e) ∧
      p.components ≠ [] := by
  obtain ⟨before, tail, hf, -, hs⟩ := freshAt_of_placeOf hp
  obtain ⟨rfl, hn, hnone⟩ := freeLocation_eq_ok_iff.1 hl
  have hplace := hf.place
  rw [← hplace] at hnone ⊢
  have hthere : (t.insert (p.place t.cwd) e).get? (p.place t.cwd) = some e :=
    get?_insert_self _ hnone
  have htail : tail = [] ∨ (t.insert (p.place t.cwd) e).get? (p.place t.cwd) = some .directory := by
    rcases he with rfl | rfl
    · exact .inl (by simpa using hs)
    · exact .inr hthere
  have hresolve := hf.resolve hn (grows_insert hnone e).within htail
  refine ⟨rfl, hnone, lookup_eq_ok_iff.2 ⟨hresolve, hthere⟩, ?_⟩
  rw [hf.components]
  simp

theorem createDirectory_eq_ok_iff : t.createDirectory p = .ok u ↔
    ∃ directory name slash l, t.placeOf p = .ok (.fresh directory name slash) ∧
      t.freeLocation directory name = .ok l ∧ u = t.insert l .directory := by
  unfold createDirectory
  rw [Outcome.bind_eq_ok_iff]
  constructor
  · rintro ⟨place, hp, hu⟩
    cases place with
    | taken => cases hu
    | fresh directory name slash =>
      obtain ⟨l, hl, hu⟩ := Outcome.bind_eq_ok_iff.1 hu
      exact ⟨directory, name, slash, l, hp, hl, (Except.ok.inj hu).symm⟩
  · rintro ⟨directory, name, slash, l, hp, hl, rfl⟩
    exact ⟨_, hp, Outcome.bind_eq_ok_iff.2 ⟨l, hl, rfl⟩⟩

theorem createFile_eq_ok_iff {bytes : ByteArray} : t.createFile p bytes = .ok u ↔
    ∃ directory name l, t.placeOf p = .ok (.fresh directory name false) ∧
      t.freeLocation directory name = .ok l ∧ u = t.insert l (.file bytes) := by
  unfold createFile
  rw [Outcome.bind_eq_ok_iff]
  constructor
  · rintro ⟨place, hp, hu⟩
    cases place with
    | taken => cases hu
    | fresh directory name slash =>
      cases slash with
      | true => cases hu
      | false =>
        obtain ⟨l, hl, hu⟩ := Outcome.bind_eq_ok_iff.1 hu
        exact ⟨directory, name, l, hp, hl, (Except.ok.inj hu).symm⟩
  · rintro ⟨directory, name, l, hp, hl, rfl⟩
    exact ⟨_, hp, Outcome.bind_eq_ok_iff.2 ⟨l, hl, rfl⟩⟩

/-- A new directory is made at the place of its path, where nothing was, and is found there. -/
theorem createDirectory_eq_ok (h : t.createDirectory p = .ok u) :
    t.get? (p.place t.cwd) = none ∧ u = t.insert (p.place t.cwd) .directory ∧
      u.lookup p = .ok (p.place t.cwd, .directory) ∧ p.components ≠ [] := by
  obtain ⟨directory, name, slash, l, hp, hl, rfl⟩ := createDirectory_eq_ok_iff.1 h
  obtain ⟨rfl, hnone, hlookup, hc⟩ := insert_of_placeOf hp hl (.inr rfl)
  exact ⟨hnone, rfl, hlookup, hc⟩

/-- A new file is made at the place of its path, where nothing was, and is found there. -/
theorem createFile_eq_ok {bytes : ByteArray} (h : t.createFile p bytes = .ok u) :
    t.get? (p.place t.cwd) = none ∧ u = t.insert (p.place t.cwd) (.file bytes) ∧
      u.lookup p = .ok (p.place t.cwd, .file bytes) := by
  obtain ⟨directory, name, l, hp, hl, rfl⟩ := createFile_eq_ok_iff.1 h
  obtain ⟨rfl, hnone, hlookup, -⟩ := insert_of_placeOf hp hl (.inl rfl)
  exact ⟨hnone, rfl, hlookup⟩

end EndpointStubs.FileTree
