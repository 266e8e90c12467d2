import EndpointStubs.Proofs.FileTree.Directories

/-!
# Making what is there elsewhere

Part of a tree can be completed: a directory or file of the whole tree can be made in the part as
well, with the directories above it, and the part stays within the whole. The only thing that can
be missing on the way is a directory.

    t.Within v → v.isDirectory p → t.createDirectories p = (.ok (), u) with u.Within v
    t.Within v → v.follow l b = .ok k → t.follow l b = .ok k ∨ t.follow l b = .error .notFound
-/

namespace EndpointStubs

namespace Path

/-- The path ends in a name, with nothing after it. -/
structure EndsIn (p : Path) (before : List (List Char)) (name : List Char) : Prop where
  body : p.body = before ++ [name]
  counts : isFiller name = false
  ne : name ≠ ['.', '.']

variable {p : Path} {before : List (List Char)} {name : List Char}

theorem lastPiece?_of_endsIn (h : p.EndsIn before name) :
    FileTree.lastPiece? p.body = some (before, name, false) := by
  have hne : name ≠ [] := (isFiller_eq_false_iff.1 h.counts).1
  unfold FileTree.lastPiece?
  rw [h.body, List.reverse_append, List.reverse_singleton, List.singleton_append,
    List.dropWhile_cons_of_neg (by simpa using hne)]
  simp [hne]

/-- The path of the first pieces of a path, without those at the end that count for nothing. -/
def upTo (p : Path) (b : List (List Char)) : Path := ofBody p.head (dropFillerEnd b)

theorem endsCounting_dropFillerEnd (b : List (List Char)) : EndsCounting (dropFillerEnd b) :=
  endsCounting_reverse_dropWhile b.reverse

/-- The pieces after those that are kept count for nothing. -/
theorem exists_fillers (b : List (List Char)) :
    ∃ fillers, b = dropFillerEnd b ++ fillers ∧ ∀ x ∈ fillers, isFiller x = true := by
  refine ⟨(b.reverse.takeWhile isFiller).reverse, ?_, fun x hx => ?_⟩
  · unfold dropFillerEnd
    rw [← List.reverse_append, List.takeWhile_append_dropWhile, List.reverse_reverse]
  · exact List.all_eq_true.1 List.all_takeWhile x (List.mem_reverse.1 hx)

section

variable (h : p.EndsIn before name)

include h

theorem dropFillerEnd_isPrefix_body : dropFillerEnd before <+: p.body :=
  (dropFillerEnd_isPrefix before).trans (h.body ▸ List.prefix_append _ _)

theorem head_upTo : (p.upTo before).head = p.head :=
  head_ofBody (dropFillerEnd_isPrefix_body h) (endsCounting_dropFillerEnd before)

theorem body_upTo :
    (p.upTo before).body = if dropFillerEnd before = [] then [[]] else dropFillerEnd before :=
  body_ofBody (dropFillerEnd_isPrefix_body h) (endsCounting_dropFillerEnd before)

theorem dropFillerEnd_eq_nil (ht : (p.upTo before).text = "") : dropFillerEnd before = [] := by
  have hends := endsCounting_dropFillerEnd before
  have hc := components_ofBody (dropFillerEnd_isPrefix_body h) hends
  rw [show ofBody p.head (dropFillerEnd before) = ⟨""⟩ by rw [← ht]; rfl] at hc
  rcases List.eq_nil_or_concat (dropFillerEnd before) with hnil | ⟨kept, last, hlast⟩
  · exact hnil
  · rw [List.concat_eq_append] at hlast
    have hcount : isFiller last = false := hends last (by simp [hlast])
    rw [hlast, bodyComponents_append, bodyComponents_cons hcount] at hc
    simp [components_eq, head, body, cutHead, Text.pieces, Head.components, bodyComponents,
      isFiller] at hc

/-- The path above a path that ends in a name is the one of the pieces before the name. -/
theorem parents_of_endsIn : ∃ qs, p.parents = p.upTo before :: qs := by
  unfold parents
  rw [h.body, List.reverse_append, List.reverse_singleton, List.singleton_append, parentBodies,
    if_neg (by simp [h.counts])]
  exact ⟨_, rfl⟩

end

theorem endsIn_of_ends {b : List (List Char)} (hb : p.body = b) (hne : b ≠ [])
    (he : EndsCounting b) (hdots : ['.', '.'] ∉ b) : ∃ before name, p.EndsIn before name := by
  obtain ⟨before, name, hbn⟩ := (List.eq_nil_or_concat b).resolve_left hne
  rw [List.concat_eq_append] at hbn
  refine ⟨before, name, hb.trans hbn, he name (by simp [hbn]), ?_⟩
  rintro rfl
  exact hdots (by simp [hbn])

/-- The path has no pieces, or ends in a name, and no piece goes up. -/
structure Ends (p : Path) : Prop where
  last : p.body = [[]] ∨ ∃ before name, p.EndsIn before name
  down : ['.', '.'] ∉ p.body

theorem ends_upTo (h : p.EndsIn before name) (hdots : ['.', '.'] ∉ p.body) :
    (p.upTo before).Ends := by
  have hbody := body_upTo h
  have hdots' : ['.', '.'] ∉ dropFillerEnd before :=
    fun hm => hdots ((dropFillerEnd_isPrefix_body h).subset hm)
  by_cases hnil : dropFillerEnd before = []
  · rw [if_pos hnil] at hbody
    exact ⟨.inl hbody, by simp [hbody]⟩
  · rw [if_neg hnil] at hbody
    exact ⟨.inr (endsIn_of_ends hbody hnil (endsCounting_dropFillerEnd before) hdots'),
      hbody ▸ hdots'⟩

theorem not_mem_body {p : Path} (h : Component.parent ∉ p.components) : ['.', '.'] ∉ p.body := by
  intro hm
  refine h (List.mem_append_right _ (List.mem_map.2 ⟨_, List.mem_filter.2 ⟨hm, by decide⟩, rfl⟩))

end Path

namespace FileTree

open EndpointStubs.Path (isFiller dropFillerEnd)

variable {t u v : FileTree} {p q : Path} {l k d : Location} {before : List (List Char)}
  {name : List Char} {e : Entry}

/-! ## Following in a part -/

theorem Within.directory_or_none (h : t.Within v) (hv : v.get? l = some .directory) :
    t.get? l = some .directory ∨ t.get? l = none := by
  cases he : t.get? l with
  | none => exact .inr rfl
  | some e =>
    left
    have := h.keeps _ _ he
    rw [hv] at this
    rw [← this]

theorem Within.insert (h : t.Within v) (hl : t.get? l = none) (hv : v.get? l = some e) :
    (t.insert l e).Within v := by
  refine ⟨h.cwd, fun k x hk => ?_⟩
  rcases (grows_insert hl e).get?_eq_some_iff.1 hk with hk | hk
  · exact h.keeps k x hk
  · obtain ⟨rfl, rfl⟩ := Prod.mk.inj (List.mem_singleton.1 hk)
    exact hv

/-- What a larger tree can follow, a smaller one can follow or lacks. -/
theorem Within.follow_or_notFound (h : t.Within v) {b : List (List Char)}
    (hv : v.follow l b = .ok k) : t.follow l b = .ok k ∨ t.follow l b = .error .notFound := by
  induction b generalizing l with
  | nil => exact .inl hv
  | cons x b ih =>
    obtain ⟨m, hs, hm⟩ := follow_cons_eq_ok_iff.1 hv
    have hdv := directory_of_step hs
    rcases h.directory_or_none hdv with hd | hnone
    · have hst : t.step l x = .ok m := by
        rw [step_of_directory hd, ← step_of_directory hdv, hs]
      simp only [FileTree.follow, hst, Except.bind]
      exact ih hm
    · right
      simp only [FileTree.follow, FileTree.step, FileTree.requireDirectory, hnone, bind, Except.bind]

/-! ## The place of a name -/

theorem placeOf_of_endsIn (h : p.EndsIn before name) (hc : checkText p = .ok ()) (t : FileTree) :
    t.placeOf p = (t.follow (t.start p) before).bind fun d =>
      (t.requireDirectory d).map fun _ => .fresh d name false := by
  have hdot : name ≠ ['.'] := (Path.isFiller_eq_false_iff.1 h.counts).2
  unfold placeOf
  rw [hc, Path.lastPiece?_of_endsIn h]
  simp only [bind, Except.bind]
  cases t.follow (t.start p) before with
  | error f => rfl
  | ok d =>
    simp only
    cases t.requireDirectory d with
    | error f => rfl
    | ok x => simp [hdot, h.ne, Except.map, pure, Except.pure]

theorem lookup_of_endsIn (h : p.EndsIn before name) (hl : t.lookup p = .ok (l, e)) :
    checkText p = .ok () ∧ ∃ d, t.follow (t.start p) before = .ok d ∧
      t.get? d = some .directory ∧ l = d ++ [String.ofList name] ∧ byteCount name ≤ maxName := by
  obtain ⟨hc, hf⟩ := resolve_eq_ok_iff.1 (lookup_eq_ok_iff.1 hl).1
  rw [h.body] at hf
  obtain ⟨d, hd, hf⟩ := follow_append_eq_ok_iff.1 hf
  obtain ⟨m, hs, hm⟩ := follow_cons_eq_ok_iff.1 hf
  obtain rfl := Except.ok.inj hm
  have hdir := directory_of_step hs
  rw [step_of_directory hdir, if_neg (by simp [h.counts]), if_neg h.ne] at hs
  split at hs
  · cases hs
  · exact ⟨hc, d, hd, hdir, (Except.ok.inj hs).symm, by omega⟩

theorem lookup_of_placeOf (h : p.EndsIn before name) (hc : checkText p = .ok ())
    (hf : t.follow (t.start p) before = .ok d) (hd : t.get? d = some .directory)
    (hn : byteCount name ≤ maxName) (he : t.get? (d ++ [String.ofList name]) = some e) :
    t.lookup p = .ok (d ++ [String.ofList name], e) := by
  refine lookup_eq_ok_iff.2 ⟨resolve_eq_ok_iff.2 ⟨hc, ?_⟩, he⟩
  rw [h.body]
  refine follow_append_eq_ok_iff.2 ⟨d, hf, follow_cons_eq_ok_iff.2 ⟨_, ?_, rfl⟩⟩
  rw [step_of_directory hd, if_neg (by simp [h.counts]), if_neg h.ne, if_neg (by omega)]

section

variable (hw : t.Within v) (hp : p.EndsIn before name)

include hw hp

/-- A name of the whole has its place in the part, or a directory above it is missing there. -/
theorem placeOf_within (hv : v.lookup p = .ok (l, e)) :
    (∃ d, l = d ++ [String.ofList name] ∧ byteCount name ≤ maxName ∧
        t.follow (t.start p) before = .ok d ∧ t.get? d = some .directory ∧
        t.placeOf p = .ok (.fresh d name false)) ∨
      t.placeOf p = .error .notFound := by
  obtain ⟨hc, d, hf, hd, hl, hn⟩ := lookup_of_endsIn hp hv
  rw [hw.start] at hf
  rcases hw.follow_or_notFound hf with hft | hft
  · rcases hw.directory_or_none hd with hdt | hdt
    · left
      refine ⟨d, hl, hn, hft, hdt, ?_⟩
      rw [placeOf_of_endsIn hp hc, hft]
      simp [Except.bind, requireDirectory, hdt, Except.map]
    · right
      rw [placeOf_of_endsIn hp hc, hft]
      simp [Except.bind, requireDirectory, hdt, Except.map]
  · right
    rw [placeOf_of_endsIn hp hc, hft]
    rfl

/-- Making a directory of a larger tree: it is made, or there, or something above it is missing. -/
theorem createDirectory_within (hv : v.lookup p = .ok (l, .directory)) :
    (∃ u, t.createDirectory p = .ok u ∧ u.Within v) ∨
      (t.createDirectory p = .error .alreadyExists ∧ t.isDirectory p = true) ∨
      t.createDirectory p = .error .notFound ∧ t.placeOf p = .error .notFound := by
  rcases placeOf_within hw hp hv with ⟨d, rfl, hn, hf, hd, hpl⟩ | hpl
  · have hvl := (lookup_eq_ok_iff.1 hv).2
    rcases hw.directory_or_none hvl with hl | hl
    · right; left
      have hc := (resolve_eq_ok_iff.1 (lookup_eq_ok_iff.1 hv).1).1
      have hthere := isDirectory_iff.2 ⟨_, lookup_of_placeOf hp hc hf hd hn hl⟩
      exact ⟨createDirectory_of_pathExists (pathExists_of_isDirectory hthere), hthere⟩
    · left
      have hfree := freeLocation_eq_ok_iff.2 ⟨rfl, hn, hl⟩
      exact ⟨_, createDirectory_eq_ok_iff.2 ⟨d, name, false, _, hpl, hfree, rfl⟩, hw.insert hl hvl⟩
  · right; right
    exact ⟨Outcome.bind_eq_error_iff.2 (.inl hpl), hpl⟩

/-- A file of a larger tree can be made once its directory is there; the tree stays within that one. -/
theorem createFile_within {bytes : ByteArray} (hv : v.lookup p = .ok (l, .file bytes))
    (hpl : t.placeOf p ≠ .error .notFound) (hl : t.get? l = none) :
    ∃ u, t.createFile p bytes = .ok u ∧ u.Within v := by
  rcases placeOf_within hw hp hv with ⟨d, rfl, hn, -, -, hplace⟩ | hplace
  · have hfree := freeLocation_eq_ok_iff.2 ⟨rfl, hn, hl⟩
    exact ⟨_, createFile_eq_ok_iff.2 ⟨d, name, _, hplace, hfree, rfl⟩,
      hw.insert hl (lookup_eq_ok_iff.1 hv).2⟩
  · exact absurd hplace hpl

end

/-! ## Completing a part -/

/-- Below a directory a name has its place. -/
theorem placeOf_of_parent (hcwd : t.get? t.cwd = some .directory) (hp : p.EndsIn before name)
    (hc : checkText p = .ok ())
    (hq : (p.upTo before).text = "" ∨ t.isDirectory (p.upTo before) = true) :
    ∃ d, t.placeOf p = .ok (.fresh d name false) := by
  obtain ⟨fillers, hb, hfill⟩ := Path.exists_fillers before
  have hstart := get?_start hcwd p
  obtain ⟨d, hf, hd⟩ : ∃ d, t.follow (t.start p) (dropFillerEnd before) = .ok d ∧
      t.get? d = some .directory := by
    by_cases hnil : dropFillerEnd before = []
    · exact ⟨_, by rw [hnil]; rfl, hstart⟩
    · rcases hq with htext | hq
      · exact absurd (Path.dropFillerEnd_eq_nil hp htext) hnil
      · obtain ⟨d, hl⟩ := isDirectory_iff.1 hq
        obtain ⟨hr, hd⟩ := lookup_eq_ok_iff.1 hl
        have hf := (resolve_eq_ok_iff.1 hr).2
        have hstartq : t.start (p.upTo before) = t.start p := by
          simp [start, Path.isAbsolute, Path.head_upTo hp]
        rw [hstartq, Path.body_upTo hp, if_neg hnil] at hf
        exact ⟨d, hf, hd⟩
  have hfollow : t.follow (t.start p) before = .ok d := by
    rw [hb]
    exact follow_append_eq_ok_iff.2 ⟨d, hf, follow_of_fillers hd hfill⟩
  refine ⟨d, ?_⟩
  rw [placeOf_of_endsIn hp hc, hfollow]
  simp [Except.bind, requireDirectory, hd, Except.map]

/-- What has no pieces is there already. -/
theorem isDirectory_of_body (hcwd : t.get? t.cwd = some .directory) (hp : p.body = [[]])
    (hc : checkText p = .ok ()) :
    t.createDirectory p = .error .alreadyExists ∧ t.isDirectory p = true := by
  constructor
  · unfold createDirectory placeOf
    rw [hc, hp]
    rfl
  · refine isDirectory_iff.2 ⟨_, lookup_eq_ok_iff.2 ⟨resolve_eq_ok_iff.2 ⟨hc, ?_⟩,
      get?_start hcwd p⟩⟩
    rw [hp]
    exact follow_of_fillers (get?_start hcwd p) (by simp [isFiller])

/-- A directory of the whole can be made in the part, or is there, or one above it is missing. -/
theorem createDirectory_of_ends (hw : t.Within v) (hcwd : t.get? t.cwd = some .directory)
    (hp : p.Ends) (hl : v.lookup p = .ok (l, .directory)) :
    (∃ u, t.createDirectory p = .ok u ∧ u.Within v) ∨
      (t.createDirectory p = .error .alreadyExists ∧ t.isDirectory p = true) ∨
      ∃ before name, p.EndsIn before name ∧ t.createDirectory p = .error .notFound := by
  rcases hp.last with hbody | ⟨before, name, hname⟩
  · exact .inr (.inl (isDirectory_of_body hcwd hbody
      (resolve_eq_ok_iff.1 (lookup_eq_ok_iff.1 hl).1).1))
  · rcases createDirectory_within hw hname hl with h | h | ⟨h, -⟩
    · exact .inl h
    · exact .inr (.inl h)
    · exact .inr (.inr ⟨before, name, hname, h⟩)

/-- One directory can be made if what is missing above it is made first. -/
theorem createFirst_cons_within {ps : List Path} (hw : t.Within v)
    (hcwd : t.get? t.cwd = some .directory) (hp : p.Ends)
    (hv : p.text = "" ∨ v.isDirectory p = true)
    (habove : ∀ before name, p.EndsIn before name → ∃ u, createFirst ps t = (.ok (), u) ∧
      u.Within v ∧ ((p.upTo before).text = "" ∨ u.isDirectory (p.upTo before) = true)) :
    ∃ u, createFirst (p :: ps) t = (.ok (), u) ∧ u.Within v := by
  rw [createFirst]
  by_cases ht : p.text = ""
  · exact ⟨t, if_pos ht, hw⟩
  rw [if_neg ht]
  obtain ⟨l, hl⟩ := isDirectory_iff.1 (hv.resolve_left ht)
  have hc := (resolve_eq_ok_iff.1 (lookup_eq_ok_iff.1 hl).1).1
  rcases createDirectory_of_ends hw hcwd hp hl with
    ⟨u, hu, huv⟩ | ⟨he, hd⟩ | ⟨before, name, hname, he⟩
  · exact ⟨u, by simp [hu], huv⟩
  · exact ⟨t, by simp [he, hd], hw⟩
  · obtain ⟨u, hu, huv, hq⟩ := habove before name hname
    have hcwdu : u.get? u.cwd = some .directory := by
      obtain ⟨new, hg, -⟩ := createFirst_grows ps t
      rw [hu] at hg
      rw [hg.cwd]
      exact hg.within.keeps _ _ hcwd
    simp only [he, hu]
    rcases createDirectory_within huv hname hl with ⟨x, hx, hxv⟩ | ⟨he', hd'⟩ | ⟨-, hpl⟩
    · exact ⟨x, by simp [hx], hxv⟩
    · exact ⟨u, by simp [he', hd'], huv⟩
    · obtain ⟨d, hd⟩ := placeOf_of_parent hcwdu hname hc hq
      rw [hd] at hpl
      cases hpl

/-- A directory of the whole can be made in the part, with all that is missing above it. -/
theorem createFirst_within {ps : List Path} (hps : p.parents = ps) (hw : t.Within v)
    (hcwd : t.get? t.cwd = some .directory) (hp : p.Ends)
    (hv : p.text = "" ∨ v.isDirectory p = true) :
    ∃ u, createFirst (p :: ps) t = (.ok (), u) ∧ u.Within v := by
  induction ps generalizing p with
  | nil =>
    refine createFirst_cons_within hw hcwd hp hv fun before name hname => ?_
    obtain ⟨qs, hqs⟩ := Path.parents_of_endsIn hname
    rw [hqs] at hps
    cases hps
  | cons q qs ih =>
    refine createFirst_cons_within hw hcwd hp hv fun before name hname => ?_
    obtain ⟨qs', hqs⟩ := Path.parents_of_endsIn hname
    obtain ⟨rfl, -⟩ := List.cons.inj (hqs.symm.trans hps)
    have hparents := (Path.eq_parents_of_parents_eq_cons hps).symm
    have hq : (p.upTo before).text = "" ∨ v.isDirectory (p.upTo before) = true := by
      by_cases ht : p.text = ""
      · -- A path without text ends in no name.
        obtain rfl : p = ⟨""⟩ := by rw [← ht]
        cases hps
      · obtain ⟨l, hl⟩ := isDirectory_iff.1 (hv.resolve_left ht)
        have hmem : p.upTo before ∈ p.parents := hps ▸ List.mem_cons_self
        exact (Classical.em _).imp_right
          fun hne => isDirectory_of_mem_parents (lookup_eq_ok_iff.1 hl).1 hmem hne
    obtain ⟨u, hu, huv⟩ := ih hparents (Path.ends_upTo hname hp.down) hq
    have hqu := createFirst_parents_eq_ok_iff hparents t
    rw [hu] at hqu
    exact ⟨u, hu, huv, hqu.1 rfl⟩

end FileTree

end EndpointStubs
