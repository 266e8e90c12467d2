import EndpointStubs.Proofs.FileTree.Replay
import EndpointStubs.Proofs.FileTree.Sound

/-!
# Paths from the working directory

A path joined to the working directory is absolute, has the same place and is followed alike; only
its text is longer. In a sound tree it leads to each directory at its place, as long as it does not
go up and its text is short enough; and what a tree had before it grew, a path led to before.

    ((pathOf t.cwd).join p).components = .root :: (p.place t.cwd).map .normal    for p that stays down
    t.follow (t.start q) q.body = t.follow (t.start p) p.body       for q = (pathOf t.cwd).join p
    t.Within u → u.lookup p = .ok (l, e) → t.get? l ≠ none → t.lookup p = .ok (l, e)
-/

namespace EndpointStubs

theorem Text.mem_join {sep c : Char} {ps : List (List Char)} (h : c ∈ join [sep] ps) :
    c = sep ∨ ∃ p ∈ ps, c ∈ p := by
  induction ps with
  | nil => cases h
  | cons p ps ih =>
    by_cases hps : ps = []
    · subst hps
      exact .inr ⟨p, List.mem_cons_self, h⟩
    · rw [join_cons_of_ne_nil _ _ hps, List.mem_append, List.mem_append] at h
      rcases h with (h | h) | h
      · exact .inr ⟨p, List.mem_cons_self, h⟩
      · exact .inl (List.mem_singleton.1 h)
      · rcases ih h with h | ⟨q, hq, hc⟩
        · exact .inl h
        · exact .inr ⟨q, List.mem_cons_of_mem _ hq, hc⟩

namespace Path

variable {p q : Path}

/-- A NUL in a text is in the name of a component. -/
theorem exists_normal_of_nul (h : '\x00' ∈ p.text.toList) :
    ∃ n, Component.normal n ∈ p.components ∧ '\x00' ∈ n.toList := by
  rw [← chars_append_cutHead p.text.toList, List.mem_append] at h
  rcases h with h | h
  · cases hh : (cutHead p.text.toList).1 <;> simp [hh, Head.chars] at h
  · rw [← Text.join_pieces '/' (cutHead p.text.toList).2] at h
    rcases Text.mem_join h with h | ⟨x, hx, h⟩
    · simp at h
    · have hfill : isFiller x = false := by
        rw [← Bool.not_eq_true]
        intro hf
        simp only [isFiller, Bool.or_eq_true, decide_eq_true_eq] at hf
        rcases hf with rfl | rfl <;> simp at h
      have hdots : x ≠ ['.', '.'] := by
        rintro rfl
        simp at h
      refine ⟨String.ofList x, ?_, by simpa using h⟩
      rw [components_eq]
      refine List.mem_append_right _ (List.mem_map.2 ⟨x, List.mem_filter.2 ⟨hx, by simp [hfill]⟩, ?_⟩)
      simp [pieceComponent, hdots]

end Path

namespace FileTree

open EndpointStubs.Path (bodyComponents isFiller walk)

variable {t u : FileTree} {p root : Path} {l k : Location} {e : Entry}

theorem pathOf_text_ne (l : Location) : (pathOf l).text ≠ "" := by
  intro h
  have := congrArg String.toList h
  simp [pathOf] at this

theorem components_pathOf (hl : ∀ n ∈ l, IsName n) :
    (pathOf l).components = .root :: l.map .normal := by
  have htext : (pathOf l).text = String.ofList ('/' :: Text.join ['/'] (l.map String.toList)) := by
    rw [← String.toList_inj]
    simp [pathOf, Text.joinStrings]
  have hpath : pathOf l = ⟨String.ofList ('/' :: Text.join ['/'] (l.map String.toList))⟩ := by
    rw [← htext]
  have hslash : ∀ x ∈ l.map String.toList, '/' ∉ x := by
    intro x hx
    obtain ⟨n, hn, rfl⟩ := List.mem_map.1 hx
    exact (hl n hn).no_slash
  rw [hpath, Path.components_mk]
  simp only [Path.cutHead, Path.Head.components, List.singleton_append, List.cons.injEq, true_and]
  rw [Path.bodyComponents_pieces_join hslash]
  exact Path.bodyComponents_names fun n hn => (hl n hn).isEntryName

theorem Sound.cwd_names (h : t.Sound) : ∀ n ∈ t.cwd, IsName n := h.names _ _ h.cwd

/-- Where a path leads does not depend on whether it is seen from the working directory. -/
theorem Sound.place_base (h : t.Sound) (root : Path) (l : Location) :
    ((pathOf t.cwd).join root).place l = root.place t.cwd := by
  by_cases hr : root.head = .root
  · have hj : (pathOf t.cwd).join root = root := by simp [Path.join, Path.isAbsolute, hr]
    rw [hj, Path.place, Path.place, Path.components_eq, hr]
    rfl
  · rw [Path.place, Path.components_join_of_ne (pathOf_text_ne _) hr,
      components_pathOf h.cwd_names, List.cons_append, Path.walk_cons, Path.walk_append,
      Path.walk_normal, Path.place, Path.components_eq root, Path.walk_append, Path.walk_head,
      if_neg hr]
    rfl

/-- Seen from the working directory, a path that stays down has the components of its place. -/
theorem Sound.components_base (h : t.Sound) (hdown : Path.Component.parent ∉ root.components) :
    ((pathOf t.cwd).join root).components = .root :: (root.place t.cwd).map .normal := by
  obtain ⟨names, hnames⟩ : ∃ names : List String, bodyComponents root.body = names.map .normal :=
    Path.exists_names_of_body (fun _ hc => hc) fun hm => hdown (List.mem_append_right _ hm)
  by_cases hr : root.head = .root
  · have hj : (pathOf t.cwd).join root = root := by simp [Path.join, Path.isAbsolute, hr]
    rw [hj, Path.place, Path.components_eq, hr, hnames, Path.walk_append, Path.walk_normal]
    rfl
  · rw [Path.components_join_of_ne (pathOf_text_ne _) hr, components_pathOf h.cwd_names, hnames,
      Path.place, Path.components_eq root, hnames, Path.walk_append, Path.walk_head, if_neg hr,
      Path.walk_normal, List.map_append, List.cons_append]

/-! ## Reaching directories -/

theorem head_of_components {cs : List Path.Component} (hp : p.components = .root :: cs) :
    p.head = .root := by
  rw [Path.components_eq] at hp
  cases hh : p.head with
  | root => rfl
  | current => simp [hh, Path.Head.components] at hp
  | none =>
    rw [hh, Path.Head.components, List.nil_append] at hp
    have hm : Path.Component.root ∈ bodyComponents p.body := hp ▸ List.mem_cons_self
    rcases Path.mem_bodyComponents hm with h | ⟨n, h⟩ <;> cases h

/-- Names down to a directory are followed to it, whatever the length of the path. -/
theorem Sound.follow_of_directory (h : t.Sound) (hp : p.components = .root :: l.map .normal)
    (hl : t.get? l = some .directory) : t.follow [] p.body = .ok l := by
  have hnames := h.names l _ hl
  have hbody : bodyComponents p.body = l.map .normal := by
    rw [Path.components_eq, head_of_components hp] at hp
    exact (List.cons.inj hp).2
  have hend : walk [] (bodyComponents p.body) = l := by
    rw [hbody, Path.walk_normal, List.nil_append]
  conv => rhs; rw [← hend]
  refine follow_of_directories (fun n hn => ?_) fun x y hxy => ?_
  · rw [hbody] at hn
    simp only [List.mem_map, Path.Component.normal.injEq, exists_eq_right] at hn
    exact (hnames n hn).short
  · rw [hbody] at hxy
    obtain ⟨x', y', rfl, rfl, -⟩ := List.map_eq_append_iff.1 hxy
    rw [Path.walk_normal, List.nil_append]
    by_cases hy : x' = x' ++ y'
    · rw [← hy] at hl
      exact hl
    · exact h.directory_of_isPrefix hl (List.prefix_append x' y') hy

/-- The names that are followed to an entry are names of entries. -/
theorem Sound.isName_of_follow (h : t.Sound) {b : List (List Char)} (hf : t.follow k b = .ok l)
    (hl : t.get? l ≠ none) {n : String} (hn : Path.Component.normal n ∈ bodyComponents b) :
    IsName n := by
  obtain ⟨x, y, hxy⟩ := List.append_of_mem hn
  have hsplit : bodyComponents b = (x ++ [.normal n]) ++ y := by simp [hxy]
  have hthere : t.get? (walk k x ++ [n]) ≠ none := by
    have hwalk : walk k (x ++ [.normal n]) = walk k x ++ [n] := by simp [Path.Component.move]
    rw [← hwalk]
    by_cases hy : y = []
    · rw [hy, List.append_nil] at hsplit
      rwa [← hsplit, ← eq_walk_of_follow hf]
    · rw [directory_of_follow hf hsplit hy]
      simp
  obtain ⟨e, he⟩ := Option.ne_none_iff_exists'.1 hthere
  exact h.names _ _ he n (by simp)

/-- What is followed to an entry finds it, if the text of the path is not too long. -/
theorem Sound.lookup_of_follow (h : t.Sound) (hf : t.follow (t.start p) p.body = .ok l)
    (he : t.get? l = some e) (hne : p.text ≠ "") (hshort : p.text.utf8ByteSize < maxPath) :
    t.lookup p = .ok (l, e) := by
  have htext : checkText p = .ok () := by
    refine checkText_eq_ok_iff.2 ⟨fun hnul => ?_, hne, hshort⟩
    obtain ⟨n, hn, hnul⟩ := Path.exists_normal_of_nul hnul
    rw [Path.components_eq, List.mem_append] at hn
    rcases hn with hn | hn
    · cases hh : p.head <;> simp [hh, Path.Head.components] at hn
    · exact (h.isName_of_follow hf (by simp [he]) hn).no_nul hnul
  exact lookup_eq_ok_iff.2 ⟨resolve_eq_ok_iff.2 ⟨htext, hf⟩, he⟩

/-- An absolute path that does not go up leads to the directory at its place. -/
theorem Sound.lookup_of_directory (h : t.Sound) (hp : p.components = .root :: l.map .normal)
    (hshort : p.text.utf8ByteSize < maxPath) (hl : t.get? l = some .directory) :
    t.lookup p = .ok (l, .directory) := by
  have hhead := head_of_components hp
  have hstart : t.start p = [] := by simp [start, Path.isAbsolute, hhead]
  refine h.lookup_of_follow (hstart ▸ h.follow_of_directory hp hl) hl (fun hempty => ?_) hshort
  simp [Path.head, hempty, Path.cutHead] at hhead

/-! ## Following from the working directory -/

/-- A leading `.` is followed like the piece that it is. -/
theorem follow_pieces_text {q : Path} (hq : q.head ≠ .root) (t : FileTree) (l : Location) :
    t.follow l (Text.pieces '/' q.text.toList) = t.follow l q.body := by
  have hdot : t.step l ['.'] = t.step l [] := rfl
  unfold Path.head at hq
  unfold Path.body
  generalize q.text.toList = cs at hq ⊢
  revert hq
  fun_cases Path.cutHead cs with
  | case1 => exact fun hq => absurd rfl hq
  | case2 | case3 =>
    intro _
    simp [Text.pieces, follow, hdot]
  | case4 => exact fun _ => rfl

/-- A path joined to another one is followed from where that one leads. -/
theorem follow_join {q : Path} (hp : p.text ≠ "") (hq : q.head ≠ .root)
    (hl : t.follow (t.start p) p.body = .ok l) :
    t.follow (t.start (p.join q)) (p.join q).body = t.follow l q.body := by
  obtain ⟨hhead, b, hb, hbody⟩ := Path.exists_body_join hp hq
  have hstart : t.start (p.join q) = t.start p := by simp [start, Path.isAbsolute, hhead]
  have hfollow : t.follow (t.start p) b = .ok l := by
    rcases hb with hb | hb
    · rwa [hb] at hl
    · rw [hb, follow_append_eq_ok_iff] at hl
      obtain ⟨m, hm, hlast⟩ := hl
      have hml := eq_walk_of_follow hlast
      rw [Path.bodyComponents_cons_of_isFiller rfl] at hml
      rwa [hml]
  rw [hstart, hbody, follow_append, hfollow, ← follow_pieces_text hq]
  rfl

/-- A path leads to the same when it is joined to the working directory, but for its length. -/
theorem Sound.follow_base (h : t.Sound) (root : Path) :
    t.follow (t.start ((pathOf t.cwd).join root)) ((pathOf t.cwd).join root).body =
      t.follow (t.start root) root.body := by
  by_cases hr : root.head = .root
  · have hj : (pathOf t.cwd).join root = root := by simp [Path.join, Path.isAbsolute, hr]
    rw [hj]
  · have hcomponents := components_pathOf h.cwd_names
    have hbase : t.follow (t.start (pathOf t.cwd)) (pathOf t.cwd).body = .ok t.cwd := by
      have hstart : t.start (pathOf t.cwd) = [] := by
        simp [start, Path.isAbsolute, head_of_components hcomponents]
      rw [hstart]
      exact h.follow_of_directory hcomponents h.cwd
    have hstart : t.start root = t.cwd := by simp [start, Path.isAbsolute, hr]
    rw [follow_join (pathOf_text_ne _) hr hbase, hstart]

theorem base_text_ne (t : FileTree) (root : Path) : ((pathOf t.cwd).join root).text ≠ "" := by
  unfold Path.join
  split
  · rename_i habs
    intro hempty
    simp [Path.isAbsolute, Path.head, hempty, Path.cutHead] at habs
  · have := pathOf_text_ne t.cwd
    split <;> simp [this]

/-- Nothing is found where nothing is. -/
theorem pathExists_of_place (h : t.get? (p.place t.cwd) = none) : t.pathExists p = false := by
  rw [← Bool.not_eq_true]
  intro hex
  obtain ⟨l, e, hl⟩ := pathExists_iff.1 hex
  obtain ⟨hr, he⟩ := lookup_eq_ok_iff.1 hl
  rw [eq_place_of_resolve hr, h] at he
  cases he

/-- A path that ends in a name and does not go up leads to the entry at its place. -/
theorem Sound.lookup_of_endsIn (h : t.Sound) {before : List (List Char)} {name : List Char}
    (hp : p.EndsIn before name) (hdown : Path.Component.parent ∉ p.components)
    (hc : checkText p = .ok ()) (he : t.get? (p.place t.cwd) = some e) :
    t.lookup p = .ok (p.place t.cwd, e) := by
  obtain ⟨names, hnames⟩ : ∃ names : List String, bodyComponents before = names.map .normal := by
    refine Path.exists_names_of_body (b := before) (fun _ hx => hx) fun hm => hdown ?_
    rw [Path.components_eq, hp.body, Path.bodyComponents_append]
    exact List.mem_append_right _ (List.mem_append_left _ hm)
  have hplace : p.place t.cwd = (t.start p ++ names) ++ [String.ofList name] := by
    rw [Path.place, Path.components_eq, ← walk_start, hp.body, Path.bodyComponents_append,
      Path.walk_append, hnames, Path.walk_normal, Path.bodyComponents_cons hp.counts]
    simp [Path.pieceComponent, hp.ne, Path.Component.move]
  rw [hplace] at he ⊢
  have hall := h.names _ _ he
  have hd : t.get? (t.start p ++ names) = some .directory :=
    h.isTree.directory_of_append (by simp) he
  refine lookup_of_placeOf hp hc ?_ hd ?_ he
  · have hf := follow_of_directories (t := t) (l := t.start p) (b := before) (fun n hn => ?_)
      fun x y hxy => ?_
    · rwa [hnames, Path.walk_normal] at hf
    · rw [hnames] at hn
      simp only [List.mem_map, Path.Component.normal.injEq, exists_eq_right] at hn
      exact (hall n (by simp [hn])).short
    · rw [hnames] at hxy
      obtain ⟨x', y', rfl, rfl, -⟩ := List.map_eq_append_iff.1 hxy
      rw [Path.walk_normal]
      refine h.directory_of_isPrefix he ?_ fun heq => ?_
      · exact ⟨y' ++ [String.ofList name], by simp⟩
      · have := congrArg List.length heq
        simp at this
  · have := (hall (String.ofList name) (by simp)).short
    rwa [String.toList_ofList] at this

/-! ## Trees that have grown -/

/-- What is followed in a grown tree was followed before, if the directories that are passed were
there, and what is found. -/
theorem follow_of_passed (hu : t.Within u) {b : List (List Char)} (hf : u.follow k b = .ok l)
    (hpassed : ∀ x y, bodyComponents b = x ++ y → y ≠ [] → t.get? (walk k x) = some .directory)
    (hl : t.get? l ≠ none) : t.follow k b = .ok l := by
  induction b generalizing k with
  | nil => exact hf
  | cons piece b ih =>
    obtain ⟨m, hs, hm⟩ := follow_cons_eq_ok_iff.1 hf
    have hdu := directory_of_step hs
    have hsplit : bodyComponents (piece :: b) = bodyComponents [piece] ++ bodyComponents b := by
      rw [← Path.bodyComponents_append, List.singleton_append]
    have hdir : t.get? k = some .directory := by
      by_cases hnil : bodyComponents (piece :: b) = []
      · obtain rfl : l = k := by rw [eq_walk_of_follow hf, hnil, Path.walk_nil]
        obtain ⟨e, he⟩ := Option.ne_none_iff_exists'.1 hl
        rw [he, ← hu.keeps _ _ he, hdu]
      · exact hpassed [] _ rfl hnil
    refine follow_cons_eq_ok_iff.2 ⟨m, ?_, ih hm fun x y hxy hy => ?_⟩
    · rw [step_of_directory hdir, ← step_of_directory hdu, hs]
    · have := hpassed (bodyComponents [piece] ++ x) y (by rw [hsplit, hxy, List.append_assoc]) hy
      rwa [Path.walk_append, ← eq_walk_of_step hs] at this

/-- What is found in a grown tree was found before, if all that is passed was there. -/
theorem lookup_of_passed (hu : t.Within u) (hl : u.lookup p = .ok (l, e))
    (hpassed : ∀ x y, bodyComponents p.body = x ++ y → y ≠ [] →
      t.get? (walk (t.start p) x) = some .directory)
    (hold : t.get? l ≠ none) : t.lookup p = .ok (l, e) := by
  obtain ⟨hr, he⟩ := lookup_eq_ok_iff.1 hl
  obtain ⟨hc, hf⟩ := resolve_eq_ok_iff.1 hr
  rw [hu.start] at hf
  obtain ⟨x, hx⟩ := Option.ne_none_iff_exists'.1 hold
  have hxe := hu.keeps _ _ hx
  rw [he] at hxe
  obtain rfl := Option.some.inj hxe
  exact lookup_eq_ok_iff.2 ⟨resolve_eq_ok_iff.2 ⟨hc, follow_of_passed hu hf hpassed hold⟩, hx⟩

/-- What is found in a grown tree was found before, if it was there and the way to it. -/
theorem lookup_of_way (hu : t.Within u) (hl : u.lookup p = .ok (l, e))
    (hstart : t.get? (t.start p) = some .directory)
    (hway : ∀ k ∈ p.way t.cwd, t.get? k = some .directory) (hold : t.get? l ≠ none) :
    t.lookup p = .ok (l, e) := by
  refine lookup_of_passed hu hl (fun x y hxy hy => ?_) hold
  by_cases hnil : p.head.components ++ x = []
  · obtain ⟨-, rfl⟩ := List.append_eq_nil_iff.1 hnil
    exact hstart
  · refine hway _ (Path.mem_passed.2 ⟨_, y, ?_, hnil, hy, walk_start t p x⟩)
    rw [Path.components_eq, hxy, List.append_assoc]

/-- In a tree, what a path without detours leads to was found before if it was there. -/
theorem lookup_of_within (ht : t.IsTree) (hu : t.Within u)
    (hdown : Path.Component.parent ∉ p.components) (hl : u.lookup p = .ok (l, e))
    (hold : t.get? l ≠ none) : t.lookup p = .ok (l, e) := by
  refine lookup_of_passed hu hl (fun x y hxy hy => ?_) hold
  obtain ⟨rel, rfl⟩ := Path.exists_names_of_rest hxy hdown
  have hlrel : l = walk (t.start p) x ++ rel := by
    have hf := (resolve_eq_ok_iff.1 (lookup_eq_ok_iff.1 hl).1).2
    rw [eq_walk_of_follow hf, hu.start, hxy, Path.walk_append, Path.walk_normal]
  obtain ⟨e', he'⟩ := Option.ne_none_iff_exists'.1 hold
  exact ht.directory_of_append (fun h => hy (by simp [h])) (hlrel ▸ he')

end FileTree

end EndpointStubs
