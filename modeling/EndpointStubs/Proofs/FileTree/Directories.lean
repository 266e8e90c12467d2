import EndpointStubs.Proofs.FileTree.Refusal

/-!
# Directories above a path

Making a directory with all above it only makes directories, at places of paths in the list, and
succeeds exactly if the directory is there in the end. What leads anywhere has directories above
it.

    (t.createDirectories p).1 = .ok () ↔ p.text = "" ∨ (t.createDirectories p).2.isDirectory p
    u.resolve p = .ok l → q ∈ p.parents → u.isDirectory q                 for q that is not empty
-/

namespace EndpointStubs.FileTree

open EndpointStubs.Path (bodyComponents isFiller)

variable {t u : FileTree} {p q : Path} {l k : Location}

/-- Texts with a NUL, the empty text and long texts are refused. -/
theorem checkText_eq_ok_iff :
    checkText p = .ok () ↔
      '\x00' ∉ p.text.toList ∧ p.text ≠ "" ∧ p.text.utf8ByteSize < maxPath := by
  unfold checkText
  simp only [bind, Except.bind, pure, Except.pure, throw, throwThe, MonadExceptOf.throw]
  by_cases h0 : '\x00' ∈ p.text.toList
  · simp [h0]
  · by_cases h1 : p.text = ""
    · simp [h1]
    · by_cases h2 : p.text.utf8ByteSize ≥ maxPath
      · simp [h0, h1, h2]
      · simp [h0, h1, h2]
        omega

theorem utf8ByteSize_le_of_isPrefix {s r : String} (h : s.toList <+: r.toList) :
    s.utf8ByteSize ≤ r.utf8ByteSize := by
  obtain ⟨x, hx⟩ := h
  have : r = s ++ String.ofList x := by
    rw [← String.toList_inj]
    simp [hx]
  rw [this, String.utf8ByteSize_append]
  omega

/-- The paths above one that can be followed lead to directories. -/
theorem isDirectory_of_mem_parents (h : t.resolve p = .ok l) (hq : q ∈ p.parents)
    (hne : q.text ≠ "") : t.isDirectory q = true := by
  obtain ⟨hc, hf⟩ := resolve_eq_ok_iff.1 h
  rcases Path.cutFrom_of_mem_parents hq with ⟨kept, fillers, piece, after, hcut⟩ | ⟨-, rfl⟩
  · have htext : checkText q = .ok () := by
      obtain ⟨h0, -, h2⟩ := checkText_eq_ok_iff.1 hc
      have hpre := hcut.text
      refine checkText_eq_ok_iff.2 ⟨fun hm => h0 (hpre.subset hm), hne, ?_⟩
      exact Nat.lt_of_le_of_lt (utf8ByteSize_le_of_isPrefix hpre) h2
    rw [hcut.body] at hf
    obtain ⟨m, hm, hrest⟩ := follow_append_eq_ok_iff.1 hf
    have hdir : t.get? m = some .directory := by
      obtain ⟨x, xs, hx⟩ : ∃ x xs, fillers ++ piece :: after = x :: xs :=
        List.exists_cons_of_ne_nil (by simp)
      rw [hx] at hrest
      obtain ⟨_, hs, -⟩ := follow_cons_eq_ok_iff.1 hrest
      exact directory_of_step hs
    have hhead : q.head = p.head := by
      rw [hcut.eq, Path.head_ofBody hcut.isPrefix hcut.kept_ends]
    refine isDirectory_iff.2 ⟨m, lookup_eq_ok_iff.2 ⟨resolve_eq_ok_iff.2 ⟨htext, ?_⟩, hdir⟩⟩
    have hstart : t.start q = t.start p := by simp [start, Path.isAbsolute, hhead]
    rw [hstart, hcut.eq, Path.body_ofBody hcut.isPrefix hcut.kept_ends]
    split
    · rename_i hk
      rw [hk] at hm
      obtain rfl := Except.ok.inj hm
      exact follow_of_all_empty hdir (by simp)
    · exact hm
  · exact absurd rfl hne

theorem pathExists_of_isDirectory (h : t.isDirectory p = true) : t.pathExists p = true := by
  obtain ⟨l, hl⟩ := isDirectory_iff.1 h
  exact pathExists_iff.2 ⟨l, _, hl⟩

theorem isDirectory_of_createDirectory (h : t.createDirectory p = .ok u) :
    u.isDirectory p = true :=
  isDirectory_iff.2 ⟨_, (createDirectory_eq_ok h).2.2.1⟩

/-! ## Making directories -/

/-- How making the first directory of a list ends. -/
inductive FirstMade (p : Path) (ps : List Path) (t : FileTree) :
    Except Fault Unit → FileTree → Prop
  | empty : p.text = "" → FirstMade p ps t (.ok ()) t
  | made {u : FileTree} : t.createDirectory p = .ok u → FirstMade p ps t (.ok ()) u
  | aboveFailed {f : Fault} {u : FileTree} : p.text ≠ "" → t.createDirectory p = .error .notFound →
      createFirst ps t = (.error f, u) → FirstMade p ps t (.error f) u
  | madeAfterAbove {u v : FileTree} : createFirst ps t = (.ok (), u) →
      u.createDirectory p = .ok v → FirstMade p ps t (.ok ()) v
  | thereAfterAbove {u : FileTree} : createFirst ps t = (.ok (), u) →
      u.isDirectory p = true → FirstMade p ps t (.ok ()) u
  | refusedAfterAbove {f : Fault} {u : FileTree} : p.text ≠ "" → createFirst ps t = (.ok (), u) →
      u.isDirectory p = false → FirstMade p ps t (.error f) u
  | there : t.isDirectory p = true → FirstMade p ps t (.ok ()) t
  | refused {f : Fault} : p.text ≠ "" → t.isDirectory p = false → FirstMade p ps t (.error f) t

theorem firstMade_createFirst (p : Path) (ps : List Path) (t : FileTree) :
    FirstMade p ps t (createFirst (p :: ps) t).1 (createFirst (p :: ps) t).2 := by
  rw [createFirst]
  by_cases hp : p.text = ""
  · rw [if_pos hp]
    exact .empty hp
  · rw [if_neg hp]
    split
    · rename_i u hu
      exact .made hu
    · rename_i hu
      split
      · rename_i f u hr
        exact .aboveFailed hp hu hr
      · rename_i u hr
        split
        · rename_i v hv
          exact .madeAfterAbove hr hv
        · by_cases hd : u.isDirectory p = true
          · rw [if_pos hd]
            exact .thereAfterAbove hr hd
          · rw [if_neg hd]
            exact .refusedAfterAbove hp hr (by simpa using hd)
    · by_cases hd : t.isDirectory p = true
      · rw [if_pos hd]
        exact .there hd
      · rw [if_neg hd]
        exact .refused hp (by simpa using hd)

/-- What making each directory of a list keeps, making the first of them keeps. -/
theorem createFirst_keeps {P : FileTree → Prop} {ps : List Path}
    (hP : ∀ p ∈ ps, ∀ t u, P t → t.createDirectory p = .ok u → P u) (ht : P t) :
    P (createFirst ps t).2 := by
  induction ps with
  | nil => exact ht
  | cons p ps ih =>
    have above := ih fun q hq => hP q (List.mem_cons_of_mem p hq)
    have one := hP p List.mem_cons_self
    have hm := firstMade_createFirst p ps t
    generalize (createFirst (p :: ps) t).1 = r at hm
    generalize (createFirst (p :: ps) t).2 = u at hm ⊢
    cases hm with
    | empty | there | refused => exact ht
    | made h => exact one _ _ ht h
    | aboveFailed _ _ h | thereAfterAbove h | refusedAfterAbove _ h =>
      rw [h] at above
      exact above
    | madeAfterAbove h hv =>
      rw [h] at above
      exact one _ _ above hv

/-- Only directories are made, at places of paths of the list. -/
theorem createFirst_grows (ps : List Path) (t : FileTree) :
    ∃ new, t.Grows new (createFirst ps t).2 ∧
      ∀ x ∈ new, x.2 = .directory ∧ ∃ q ∈ ps, q.components ≠ [] ∧ x.1 = q.place t.cwd := by
  refine createFirst_keeps (P := fun u => ∃ new, t.Grows new u ∧ ∀ x ∈ new, x.2 = .directory ∧
    ∃ q ∈ ps, q.components ≠ [] ∧ x.1 = q.place t.cwd) ?_ ⟨[], Grows.refl t, by simp⟩
  rintro p hp u v ⟨new, hg, hnew⟩ hv
  obtain ⟨hn, rfl, -, hc⟩ := createDirectory_eq_ok hv
  refine ⟨_, hg.trans (grows_insert hn _), fun x hx => ?_⟩
  rcases List.mem_append.1 hx with hx | hx
  · exact hnew x hx
  · obtain rfl := List.mem_singleton.1 hx
    exact ⟨rfl, p, hp, hc, by rw [hg.cwd]⟩

/-- Making the first directory succeeds exactly if it is there in the end, as long as a failure
above it keeps it from being there. -/
theorem createFirst_eq_ok_iff {ps : List Path}
    (habove : ∀ f u, t.createDirectory p = .error .notFound → createFirst ps t = (.error f, u) →
      u.isDirectory p = false) :
    (createFirst (p :: ps) t).1 = .ok () ↔
      p.text = "" ∨ (createFirst (p :: ps) t).2.isDirectory p = true := by
  have hm := firstMade_createFirst p ps t
  generalize (createFirst (p :: ps) t).1 = r at hm
  generalize (createFirst (p :: ps) t).2 = u at hm
  cases hm with
  | empty h => simp [h]
  | made h | madeAfterAbove _ h => simp [isDirectory_of_createDirectory h]
  | aboveFailed hp hn h => simp [hp, habove _ _ hn h]
  | thereAfterAbove _ h | there h => simp [h]
  | refusedAfterAbove hp _ h | refused hp h => simp [hp, h]

theorem createFirst_parents_eq_ok_iff {ps : List Path} (hps : p.parents = ps) (t : FileTree) :
    (createFirst (p :: ps) t).1 = .ok () ↔
      p.text = "" ∨ (createFirst (p :: ps) t).2.isDirectory p = true := by
  induction ps generalizing p t with
  | nil =>
    refine createFirst_eq_ok_iff fun f u hn h => ?_
    obtain ⟨-, rfl⟩ := Prod.mk.inj h
    rw [← Bool.not_eq_true]
    intro hd
    rw [createDirectory_of_pathExists (pathExists_of_isDirectory hd)] at hn
    cases hn
  | cons q qs ih =>
    refine createFirst_eq_ok_iff fun f u _ h => ?_
    have hq := ih (Path.eq_parents_of_parents_eq_cons hps).symm t
    rw [h] at hq
    simp only [reduceCtorEq, false_iff, not_or] at hq
    rw [← Bool.not_eq_true]
    intro hd
    obtain ⟨l, hl⟩ := isDirectory_iff.1 hd
    have hmem : q ∈ p.parents := hps ▸ List.mem_cons_self
    exact hq.2 (isDirectory_of_mem_parents (lookup_eq_ok_iff.1 hl).1 hmem hq.1)

/-- Making directories succeeds exactly if the last one is there afterwards. -/
theorem createDirectories_eq_ok_iff (p : Path) (t : FileTree) :
    (t.createDirectories p).1 = .ok () ↔
      p.text = "" ∨ (t.createDirectories p).2.isDirectory p = true :=
  createFirst_parents_eq_ok_iff rfl t

/-- Where all directories are there, none is made. -/
theorem createDirectories_of_there (h : p.text = "" ∨ t.isDirectory p = true) :
    t.createDirectories p = (.ok (), t) := by
  unfold createDirectories
  rw [createFirst]
  by_cases hp : p.text = ""
  · rw [if_pos hp]
  · have hd := h.resolve_left hp
    rw [if_neg hp, createDirectory_of_pathExists (pathExists_of_isDirectory hd)]
    simp only [hd, if_true]

/-- Making the directories above a path puts directories on its way, and nothing else. -/
theorem createDirectories_parent_grows (hq : p.parent? = some q) (t : FileTree) :
    ∃ new, t.Grows new (t.createDirectories q).2 ∧
      ∀ x ∈ new, x.2 = .directory ∧ x.1 ∈ p.way t.cwd := by
  have hmem : p.parents = q :: q.parents := by
    unfold Path.parent? at hq
    obtain ⟨qs, hqs⟩ := List.head?_eq_some_iff.1 hq
    rw [hqs, Path.eq_parents_of_parents_eq_cons hqs]
  obtain ⟨new, hg, hnew⟩ := createFirst_grows (q :: q.parents) t
  refine ⟨new, hg, fun x hx => ?_⟩
  obtain ⟨hx2, r, hr, hc, hx1⟩ := hnew x hx
  rw [← hmem] at hr
  exact ⟨hx2, hx1 ▸ Path.place_mem_way hr hc⟩

end EndpointStubs.FileTree
