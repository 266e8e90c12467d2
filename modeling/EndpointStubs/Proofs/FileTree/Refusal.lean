import Mathlib.Data.List.TakeWhile
import EndpointStubs.Proofs.FileTree.Creation

/-!
# Refused entries

A new directory or file is refused as already there when its path leads to something, and for a
file this is the only reason, unless a slash follows its name.

    t.pathExists p → t.createDirectory p = .error .alreadyExists
    t.createFile p bytes = .error .alreadyExists ↔ t.pathExists p ∧ ¬p.namesDirectory
-/

namespace EndpointStubs

/-- The last name of the path is followed by a slash. -/
def Path.namesDirectory (p : Path) : Bool :=
  match FileTree.lastPiece? p.body with
  | some (_, piece, slash) => slash && !(piece = ['.'] || piece = ['.', '.'])
  | none => false

namespace FileTree

open EndpointStubs.Path (bodyComponents isFiller)

variable {t u : FileTree} {p : Path} {l k : Location}

theorem pathExists_iff : t.pathExists p = true ↔ ∃ l e, t.lookup p = .ok (l, e) :=
  Outcome.isOk_iff.trans Prod.exists

theorem isDirectory_iff : t.isDirectory p = true ↔ ∃ l, t.lookup p = .ok (l, .directory) := by
  unfold isDirectory
  split <;> simp_all

/-! ## Faults of following -/

theorem requireDirectory_ne_alreadyExists (t : FileTree) (l : Location) :
    t.requireDirectory l ≠ .error .alreadyExists := by
  unfold requireDirectory
  split <;> simp

theorem step_ne_alreadyExists (t : FileTree) (l : Location) (piece : List Char) :
    t.step l piece ≠ .error .alreadyExists := by
  cases hd : t.requireDirectory l with
  | ok x =>
    rw [step_of_directory (requireDirectory_eq_ok_iff.1 hd)]
    split
    · simp
    · split
      · simp
      · split <;> simp
  | error f =>
    have hf := requireDirectory_ne_alreadyExists t l
    rw [hd] at hf
    unfold step
    rw [hd]
    simpa [bind, Except.bind] using hf

/-- Following a path never says that something exists already. -/
theorem follow_ne_alreadyExists (t : FileTree) (l : Location) (b : List (List Char)) :
    t.follow l b ≠ .error .alreadyExists := by
  induction b generalizing l with
  | nil => simp [follow]
  | cons x b ih =>
    have hs := step_ne_alreadyExists t l x
    rw [follow]
    cases hx : t.step l x with
    | ok m => exact ih m
    | error f =>
      rw [hx] at hs
      exact hs

theorem checkText_ne_alreadyExists (p : Path) : checkText p ≠ .error .alreadyExists := by
  unfold checkText
  simp only [bind, Except.bind, pure, Except.pure, throw, throwThe, MonadExceptOf.throw]
  split
  · simp
  · split
    · simp
    · split <;> simp

/-! ## Paths that lead to something -/

/-- No slash follows the name of a file. -/
theorem namesDirectory_of_lookup_file {b : ByteArray} (h : t.lookup p = .ok (l, .file b)) :
    p.namesDirectory = false := by
  obtain ⟨hr, hb⟩ := lookup_eq_ok_iff.1 h
  obtain ⟨-, hf⟩ := resolve_eq_ok_iff.1 hr
  unfold Path.namesDirectory
  cases hl : lastPiece? p.body with
  | none => rfl
  | some r =>
    obtain ⟨before, piece, slash⟩ := r
    obtain ⟨tail, hbody, htail, -, hslash⟩ := eq_of_lastPiece? hl
    have hnil : tail = [] := by
      by_contra hne
      -- A slash is followed in a directory, and leads nowhere else.
      rw [hbody] at hf
      obtain ⟨d, -, hf⟩ := follow_append_eq_ok_iff.1 hf
      obtain ⟨k, -, hk⟩ := follow_cons_eq_ok_iff.1 hf
      obtain ⟨x, xs, rfl⟩ := List.exists_cons_of_ne_nil hne
      obtain ⟨m, hs, -⟩ := follow_cons_eq_ok_iff.1 hk
      have hdir := directory_of_step hs
      rw [follow_of_all_empty hdir htail] at hk
      obtain rfl := Except.ok.inj hk
      rw [hb] at hdir
      cases hdir
    have hnone : slash = false := by
      rw [← Bool.not_eq_true, hslash]
      exact fun hne => hne hnil
    rw [hnone]
    rfl

/-- A path that leads to something leads past what is before its last piece, in a directory. -/
theorem follow_of_lookup {e : Entry} {before : List (List Char)} {piece : List Char} {slash : Bool}
    (h : t.lookup p = .ok (l, e)) (hlast : lastPiece? p.body = some (before, piece, slash)) :
    ∃ directory, t.follow (t.start p) before = .ok directory ∧
      t.get? directory = some .directory ∧ t.step directory piece = .ok l := by
  obtain ⟨hr, -⟩ := lookup_eq_ok_iff.1 h
  obtain ⟨-, hf⟩ := resolve_eq_ok_iff.1 hr
  obtain ⟨tail, hb, htail, -⟩ := eq_of_lastPiece? hlast
  rw [hb] at hf
  obtain ⟨d, hd, hf⟩ := follow_append_eq_ok_iff.1 hf
  obtain ⟨k, hs, hk⟩ := follow_cons_eq_ok_iff.1 hf
  have hlk := eq_walk_of_follow hk
  rw [Path.bodyComponents_of_all_empty htail, Path.walk_nil] at hlk
  exact ⟨d, hd, directory_of_step hs, hlk ▸ hs⟩

/-- A path that leads to something stands at a taken place, or at a name that is taken. -/
theorem placeOf_of_lookup {e : Entry} (h : t.lookup p = .ok (l, e)) :
    t.placeOf p = .ok .taken ∨ ∃ directory name,
      t.placeOf p = .ok (.fresh directory name p.namesDirectory) ∧
        t.freeLocation directory name = .error .alreadyExists := by
  obtain ⟨hr, he⟩ := lookup_eq_ok_iff.1 h
  have hp := placed_placeOf t p
  generalize t.placeOf p = r at hp ⊢
  cases hp with
  | badText htext => exact nomatch (resolve_eq_ok_iff.1 hr).1.symm.trans htext
  | noPiece | dots => exact .inl rfl
  | noWay _ hlast hfollow =>
    obtain ⟨d, hd, -⟩ := follow_of_lookup h hlast
    exact nomatch hd.symm.trans hfollow
  | noDirectory _ hlast hfollow hfault =>
    obtain ⟨d, hd, hdirectory, -⟩ := follow_of_lookup h hlast
    obtain rfl := Except.ok.inj (hd.symm.trans hfollow)
    have hthere : t.requireDirectory d = .ok () := requireDirectory_eq_ok_iff.2 hdirectory
    exact nomatch hthere.symm.trans hfault
  | @fresh before name slash d _ hlast hfollow _ hdot hparent =>
    right
    obtain ⟨d', hd, hdirectory, hs⟩ := follow_of_lookup h hlast
    obtain rfl := Except.ok.inj (hd.symm.trans hfollow)
    obtain ⟨-, -, -, hne, -⟩ := eq_of_lastPiece? hlast
    refine ⟨d', name, ?_, freeLocation_eq_alreadyExists_iff.2 ?_⟩
    · simp [Path.namesDirectory, hlast, hdot, hparent]
    · rw [step_of_directory hdirectory, if_neg (by simp [isFiller, hne, hdot]),
        if_neg hparent] at hs
      split at hs
      · cases hs
      · rename_i hn
        obtain rfl := Except.ok.inj hs
        exact ⟨Nat.not_lt.1 hn, e, he⟩

theorem createDirectory_of_pathExists (h : t.pathExists p = true) :
    t.createDirectory p = .error .alreadyExists := by
  obtain ⟨l, e, hl⟩ := pathExists_iff.1 h
  unfold createDirectory
  refine Outcome.bind_eq_error_iff.2 (.inr ?_)
  rcases placeOf_of_lookup hl with hp | ⟨d, name, hp, hf⟩
  · exact ⟨_, hp, rfl⟩
  · exact ⟨_, hp, Outcome.bind_eq_error_iff.2 (.inl hf)⟩

theorem createFile_of_pathExists (h : t.pathExists p = true) (hn : p.namesDirectory = false)
    (bytes : ByteArray) : t.createFile p bytes = .error .alreadyExists := by
  obtain ⟨l, e, hl⟩ := pathExists_iff.1 h
  unfold createFile
  refine Outcome.bind_eq_error_iff.2 (.inr ?_)
  rcases placeOf_of_lookup hl with hp | ⟨d, name, hp, hf⟩
  · exact ⟨_, hp, rfl⟩
  · rw [hn] at hp
    exact ⟨_, hp, Outcome.bind_eq_error_iff.2 (.inl hf)⟩

theorem placeOf_ne_alreadyExists (t : FileTree) (p : Path) :
    t.placeOf p ≠ .error .alreadyExists := by
  intro h
  have hp := placed_placeOf t p
  rw [h] at hp
  cases hp with
  | badText htext => exact checkText_ne_alreadyExists p htext
  | noWay _ _ hfollow => exact follow_ne_alreadyExists t _ _ hfollow
  | noDirectory _ _ _ hdirectory => exact requireDirectory_ne_alreadyExists t _ hdirectory

theorem eq_nil_of_lastPiece?_eq_none {b : List (List Char)} (h : lastPiece? b = none) :
    ∀ x ∈ b, x = [] := by
  unfold lastPiece? at h
  split at h
  · rename_i hd
    intro x hx
    rw [List.dropWhile_eq_nil_iff] at hd
    exact List.isEmpty_iff.1 (hd x (List.mem_reverse.2 hx))
  · cases h

/-- A taken place of a path that ends in a name: the path ends in a `.` below a directory. -/
theorem pathExists_of_placeOf_taken {cs : List Path.Component} {n : String}
    (hp : p.components = cs ++ [.normal n]) (h : t.placeOf p = .ok .taken) :
    t.pathExists p = true ∧ p.namesDirectory = false := by
  have hplaced := placed_placeOf t p
  rw [h] at hplaced
  cases hplaced with
  | noPiece _ hlast =>
    have hempty := eq_nil_of_lastPiece?_eq_none hlast
    rw [Path.components_eq, Path.bodyComponents_of_all_empty hempty, List.append_nil] at hp
    have := congrArg List.getLast? hp
    cases hh : p.head <;> simp [hh, Path.Head.components] at this
  | @dots before piece slash d htext hlast hfollow hdirectory hdots =>
    obtain ⟨tail, hb, htail, -, -⟩ := eq_of_lastPiece? hlast
    obtain rfl : piece = ['.'] := by
      refine hdots.resolve_right ?_
      rintro rfl
      -- The last component would be `..`, and no name.
      rw [Path.components_eq, hb, Path.bodyComponents_append,
        Path.bodyComponents_cons (by decide), Path.bodyComponents_of_all_empty htail,
        ← List.append_assoc] at hp
      have := (List.append_inj' hp rfl).2
      simp [Path.pieceComponent] at this
    refine ⟨pathExists_iff.2 ⟨d, .directory, lookup_eq_ok_iff.2 ⟨?_, hdirectory⟩⟩, ?_⟩
    · refine resolve_eq_ok_iff.2 ⟨htext, ?_⟩
      rw [hb]
      refine follow_append_eq_ok_iff.2 ⟨d, hfollow, follow_cons_eq_ok_iff.2 ⟨d, ?_, ?_⟩⟩
      · rw [step_of_directory hdirectory]
        rfl
      · exact follow_of_all_empty hdirectory htail
    · simp [Path.namesDirectory, hlast]

/-- A file collides exactly with what its path leads to. -/
theorem createFile_eq_alreadyExists_iff {cs : List Path.Component} {n : String}
    (hp : p.components = cs ++ [.normal n]) (bytes : ByteArray) :
    t.createFile p bytes = .error .alreadyExists ↔
      t.pathExists p = true ∧ p.namesDirectory = false := by
  refine ⟨fun h => ?_, fun h => createFile_of_pathExists h.1 h.2 bytes⟩
  unfold createFile at h
  rcases Outcome.bind_eq_error_iff.1 h with h | ⟨place, hpl, h⟩
  · exact absurd h (placeOf_ne_alreadyExists t p)
  cases place with
  | taken => exact pathExists_of_placeOf_taken hp hpl
  | fresh directory name slash =>
    obtain ⟨before, tail, hf, hlast, hs⟩ := freshAt_of_placeOf hpl
    cases slash with
    | true => cases h
    | false =>
      obtain hfree | ⟨l, -, h⟩ := Outcome.bind_eq_error_iff.1 h
      · obtain ⟨hn, e, he⟩ := freeLocation_eq_alreadyExists_iff.1 hfree
        rw [← hf.place] at he
        have htail : tail = [] := by simpa using hs
        have hresolve := hf.resolve hn (Within.refl t) (.inl htail)
        refine ⟨pathExists_iff.2 ⟨_, e, lookup_eq_ok_iff.2 ⟨hresolve, he⟩⟩, ?_⟩
        simp [Path.namesDirectory, hlast]
      · cases h

end FileTree

end EndpointStubs
