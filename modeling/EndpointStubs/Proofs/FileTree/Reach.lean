import Mathlib.Data.List.Induction
import EndpointStubs.Proofs.FileTree.Directories
import EndpointStubs.Proofs.Path.Names

/-!
# Reaching places

A path can be followed exactly if its names are short enough and a directory is at each place that
it passes. In a tree every entry lies in a directory, so a path that does not go up can be followed
as soon as something is at its place.

    t.resolve p = .ok l → l' ∈ p.way t.cwd → t.get? l' = some .directory
    t.IsTree → t.get? (l ++ rel) = some e → t.get? l = some .directory          for rel ≠ []
-/

namespace EndpointStubs

namespace Path

/-- The path has a text and does not go up. -/
structure Plain (p : Path) : Prop where
  text_ne : p.text ≠ ""
  down : Component.parent ∉ p.components

/-- After the head there are only names and `..`. -/
theorem mem_bodyComponents {b : List (List Char)} {c : Component} (h : c ∈ bodyComponents b) :
    c = .parent ∨ ∃ n, c = .normal n := by
  obtain ⟨x, -, rfl⟩ := List.mem_map.1 h
  unfold pieceComponent
  split
  · exact .inl rfl
  · exact .inr ⟨_, rfl⟩

theorem exists_names_of_body {cs : List Component} {b : List (List Char)}
    (hb : ∀ c ∈ cs, c ∈ bodyComponents b) (hdown : Component.parent ∉ cs) :
    ∃ names : List String, cs = names.map .normal :=
  exists_names_of_forall fun c hc =>
    (mem_bodyComponents (hb c hc)).resolve_left fun hparent => hdown (hparent ▸ hc)

/-- The rest of the way of a path that does not go up are names. -/
theorem exists_names_of_rest {p : Path} {x y : List Component}
    (hbody : bodyComponents p.body = x ++ y) (hdown : Component.parent ∉ p.components) :
    ∃ names : List String, y = names.map .normal := by
  have hy : ∀ c ∈ y, c ∈ bodyComponents p.body := fun c hc => hbody ▸ List.mem_append_right x hc
  refine exists_names_of_body hy fun hm => hdown ?_
  rw [components_eq]
  exact List.mem_append_right _ (hy _ hm)

/-- After its first component a path that does not go up has only names. -/
theorem exists_names_of_append {p : Path} {a b : List Component} (h : p.components = a ++ b)
    (ha : a ≠ []) (hdown : Component.parent ∉ b) :
    ∃ names : List String, b = names.map .normal := by
  refine exists_names_of_body (b := p.body) (fun c hc => ?_) hdown
  have hsub : b = (bodyComponents p.body).drop (a.length - p.head.components.length) := by
    have h1 : p.head.components.length ≤ a.length :=
      Nat.le_trans (length_head_components_le _) (List.length_pos_iff.2 ha)
    have h2 := congrArg (List.drop a.length) h
    rwa [components_eq, List.drop_append, List.drop_of_length_le h1, List.nil_append,
      List.drop_left, eq_comm] at h2
  rw [hsub] at hc
  exact List.mem_of_mem_drop hc

theorem components_ne_nil {p : Path} (h : p.text ≠ "") : p.components ≠ [] := by
  intro hc
  rw [components_eq, List.append_eq_nil_iff] at hc
  have hh : p.head = .none := by
    cases hh : p.head with
    | none => rfl
    | root | current => simp [hh, Head.components] at hc
  have hcs : p.text.toList ≠ [] := by simpa using h
  have hbody := components_of_head_eq_none hh
  obtain ⟨x, rest, hx⟩ := List.exists_cons_of_ne_nil (Text.pieces_ne_nil '/' p.text.toList)
  rw [components_eq, hc.1, hc.2, hx, bodyComponents_cons (isFiller_of_cutHead hcs hh hx)] at hbody
  cases hbody

/-- What is on the way of a path that goes on by names from one that does not go up is above its
place. -/
theorem exists_of_mem_way {cwd l : Location} {p q : Path} {names : List String}
    (hp : Component.parent ∉ p.components)
    (hq : q.components = p.components ++ names.map .normal) (hl : l ∈ q.way cwd) :
    ∃ rel, rel ≠ [] ∧ q.place cwd = l ++ rel := by
  obtain ⟨a, b, hab, ha, hb, rfl⟩ := mem_passed.1 hl
  have hdown : Component.parent ∉ b := by
    intro hm
    have : Component.parent ∈ q.components := hab ▸ List.mem_append_right _ hm
    rw [hq, List.mem_append] at this
    rcases this with h | h
    · exact hp h
    · simp at h
  obtain ⟨rel, rfl⟩ := exists_names_of_append hab ha hdown
  refine ⟨rel, fun h => hb (by simp [h]), ?_⟩
  rw [place, hab, walk_append, walk_normal]

end Path

namespace FileTree

open EndpointStubs.Path (bodyComponents isFiller walk)

variable {t u : FileTree} {p q : Path} {l k : Location}

/-! ## Following -/

/-- What is passed on the way is a directory. -/
theorem directory_of_follow {b : List (List Char)} (h : t.follow l b = .ok k)
    {x y : List Path.Component} (hb : bodyComponents b = x ++ y) (hy : y ≠ []) :
    t.get? (walk l x) = some .directory := by
  induction b generalizing l x with
  | nil =>
    have := List.append_eq_nil_iff.1 (Eq.symm hb)
    exact absurd this.2 hy
  | cons piece b ih =>
    obtain ⟨m, hs, hm⟩ := follow_cons_eq_ok_iff.1 h
    have hmove := eq_walk_of_step hs
    by_cases hf : isFiller piece = true
    · rw [Path.bodyComponents_cons_of_isFiller hf] at hb hmove
      rw [Path.bodyComponents_nil, Path.walk_nil] at hmove
      rw [hmove] at hm
      exact ih hm hb
    · rw [Bool.not_eq_true] at hf
      rw [Path.bodyComponents_cons hf] at hb hmove
      cases x with
      | nil => exact directory_of_step hs
      | cons c x =>
        rw [List.cons_append, List.cons.injEq] at hb
        obtain ⟨rfl, hb⟩ := hb
        rw [hmove] at hm
        exact ih hm hb

theorem directory_of_mem_way (h : t.resolve p = .ok l) (hk : k ∈ p.way t.cwd) :
    t.get? k = some .directory := by
  obtain ⟨a, b, hab, ha, hb, rfl⟩ := Path.mem_passed.1 hk
  have hlen : p.head.components.length ≤ a.length :=
    Nat.le_trans (Path.length_head_components_le _) (List.length_pos_iff.2 ha)
  obtain ⟨a', rfl⟩ : p.head.components <+: a :=
    List.prefix_of_prefix_length_le (List.prefix_append _ _) (hab ▸ List.prefix_append a b) hlen
  rw [Path.components_eq, List.append_assoc] at hab
  rw [← walk_start]
  exact directory_of_follow (resolve_eq_ok_iff.1 h).2 (List.append_cancel_left hab) hb

/-- A name that is followed is short enough. -/
theorem short_of_follow {b : List (List Char)} (h : t.follow l b = .ok k) {n : String}
    (hn : Path.Component.normal n ∈ bodyComponents b) : byteCount n.toList ≤ maxName := by
  induction b generalizing l with
  | nil => cases hn
  | cons piece b ih =>
    obtain ⟨m, hs, hm⟩ := follow_cons_eq_ok_iff.1 h
    by_cases hf : isFiller piece = true
    · rw [Path.bodyComponents_cons_of_isFiller hf] at hn
      exact ih hm hn
    · rw [Bool.not_eq_true] at hf
      rw [Path.bodyComponents_cons hf, List.mem_cons] at hn
      rcases hn with hn | hn
      · rw [step_of_directory (directory_of_step hs), if_neg (by simp [hf])] at hs
        unfold Path.pieceComponent at hn
        split at hn
        · cases hn
        · rename_i hp
          rw [if_neg hp] at hs
          split at hs
          · cases hs
          · obtain rfl := Path.Component.normal.inj hn
            rw [String.toList_ofList]
            omega
      · exact ih hm hn

/-- Short names can be followed through directories. -/
theorem follow_of_directories {b : List (List Char)}
    (hshort : ∀ n, Path.Component.normal n ∈ bodyComponents b → byteCount n.toList ≤ maxName)
    (hdir : ∀ x y, bodyComponents b = x ++ y → t.get? (walk l x) = some .directory) :
    t.follow l b = .ok (walk l (bodyComponents b)) := by
  induction b generalizing l with
  | nil => rfl
  | cons piece b ih =>
    have hl : t.get? l = some .directory := hdir [] _ rfl
    rw [follow]
    by_cases hf : isFiller piece = true
    · rw [Path.bodyComponents_cons_of_isFiller hf] at hshort hdir ⊢
      rw [step_of_directory hl, if_pos hf]
      exact ih hshort hdir
    · rw [Bool.not_eq_true] at hf
      rw [Path.bodyComponents_cons hf] at hshort hdir ⊢
      have hstep : t.step l piece = .ok ((Path.pieceComponent piece).move l) := by
        rw [step_of_directory hl, if_neg (by simp [hf])]
        by_cases hp : piece = ['.', '.']
        · rw [if_pos hp, hp]
          rfl
        · have hc : Path.pieceComponent piece = .normal (String.ofList piece) := by
            simp [Path.pieceComponent, hp]
          have := hshort (String.ofList piece) (hc ▸ List.mem_cons_self)
          rw [String.toList_ofList] at this
          rw [if_neg hp, if_neg (by omega), hc]
          rfl
      rw [hstep, Path.walk_cons]
      refine ih (fun n hn => hshort n (List.mem_cons_of_mem _ hn)) fun x y hxy => ?_
      exact hdir (_ :: x) y (by rw [hxy, List.cons_append])

/-! ## Trees -/

/-- Every entry lies in a directory. -/
def IsTree (t : FileTree) : Prop :=
  ∀ l e, l ≠ [] → t.get? l = some e → t.get? l.dropLast = some .directory

/-- What is below something is below a directory. -/
theorem IsTree.directory_of_append (h : t.IsTree) {rel : Location} (hrel : rel ≠ []) {e : Entry}
    (he : t.get? (l ++ rel) = some e) : t.get? l = some .directory := by
  induction rel using List.reverseRecOn generalizing e with
  | nil => exact absurd rfl hrel
  | append_singleton rel n ih =>
    rw [← List.append_assoc] at he
    have hd := h _ _ (by simp) he
    rw [List.dropLast_concat] at hd
    by_cases hr : rel = []
    · rwa [hr, List.append_nil] at hd
    · exact ih hr hd

/-- A path that was tried below another one finds a directory at the place of that one; if the
directory was there before, the other path led to it. -/
theorem pathExists_of_resolve_below (ht : t.IsTree) (hu : t.Within u) (hp : p.Plain)
    {names : List String} (hnames : names ≠ []) (hq : u.resolve q = .ok l)
    (htext : p.text.toList <+: q.text.toList)
    (hcomp : q.components = p.components ++ names.map .normal)
    (he : t.get? (p.place t.cwd) ≠ none) : t.pathExists p = true := by
  have hway : p.place u.cwd ∈ q.way u.cwd :=
    Path.mem_passed.2 ⟨_, _, hcomp, Path.components_ne_nil hp.text_ne, by simpa using hnames, rfl⟩
  have hdir := directory_of_mem_way hq hway
  rw [hu.cwd] at hdir
  obtain ⟨e, he⟩ := Option.ne_none_iff_exists'.1 he
  obtain rfl : Entry.directory = e := by
    have := hu.keeps _ _ he
    rw [hdir] at this
    exact Option.some.inj this
  obtain ⟨hc, hf⟩ := resolve_eq_ok_iff.1 hq
  have hcheck : checkText p = .ok () := by
    obtain ⟨h0, -, h2⟩ := checkText_eq_ok_iff.1 hc
    refine checkText_eq_ok_iff.2 ⟨fun hm => h0 (htext.subset hm), hp.text_ne, ?_⟩
    exact Nat.lt_of_le_of_lt (utf8ByteSize_le_of_isPrefix htext) h2
  have hplace : walk (t.start p) (bodyComponents p.body) = p.place t.cwd := walk_start t p _
  have hfollow : t.follow (t.start p) p.body = .ok (p.place t.cwd) := by
    rw [← hplace]
    refine follow_of_directories (fun n hn => ?_) fun x y hxy => ?_
    · have hmem : Path.Component.normal n ∈ q.components := by
        rw [hcomp, Path.components_eq]
        exact List.mem_append_left _ (List.mem_append_right _ hn)
      rw [Path.components_eq, List.mem_append] at hmem
      rcases hmem with hmem | hmem
      · cases hh : q.head <;> simp [hh, Path.Head.components] at hmem
      · exact short_of_follow hf hmem
    · obtain ⟨rel, hrel⟩ := Path.exists_names_of_rest hxy hp.down
      rw [hxy, hrel, Path.walk_append, Path.walk_normal] at hplace
      rw [← hplace] at he
      by_cases hr : rel = []
      · rwa [hr, List.append_nil] at he
      · exact ht.directory_of_append hr he
  exact pathExists_iff.2 ⟨_, _, lookup_eq_ok_iff.2 ⟨resolve_eq_ok_iff.2 ⟨hcheck, hfollow⟩, he⟩⟩

end FileTree

end EndpointStubs
