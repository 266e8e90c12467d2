import EndpointStubs.Proofs.Path.Components

/-!
# Derived paths

The pieces and the components of a joined path, and the components of the paths above a path and of
what remains of a path below another one.

    (p.join q).components = p.components ++ q.components          for q without head
    (p.join q).components = p.components ++ bodyComponents q.body          for q without root
    q ∈ p.parents → q.components is a proper start of p.components, q.text a start of p.text
    p.stripPrefix? q = some r → p.components = q.components ++ r.components
-/

namespace EndpointStubs.Path

/-! ## Joining -/

theorem components_of_head_eq_none {q : Path} (hq : q.head = .none) :
    q.components = bodyComponents (Text.pieces '/' q.text.toList) := by
  have hc : (cutHead q.text.toList).2 = q.text.toList := by
    have := chars_append_cutHead q.text.toList
    rw [show (cutHead q.text.toList).1 = Head.none from hq] at this
    exact this
  rw [components_eq, hq, body, hc]
  rfl

/-- Without a root in front, a whole text has the same components as its body. -/
theorem bodyComponents_pieces_text {q : Path} (hq : q.head ≠ .root) :
    bodyComponents (Text.pieces '/' q.text.toList) = bodyComponents q.body := by
  unfold head at hq
  unfold body
  generalize q.text.toList = cs at hq ⊢
  revert hq
  fun_cases cutHead cs with
  | case1 => exact fun hq => absurd rfl hq
  | case2 => exact fun _ => rfl
  | case3 => exact fun _ => rfl
  | case4 => exact fun _ => rfl

/-- What stands after a slash adds its own pieces. -/
theorem head_body_append_slash {cs : List Char} (h : cs ≠ []) (ds : List Char) :
    let p : Path := ⟨String.ofList (cs ++ '/' :: ds)⟩
    p.head = (cutHead cs).1 ∧
      p.body = Text.pieces '/' (cutHead cs).2 ++ Text.pieces '/' ds := by
  simp [head, body, cutHead_append_slash h, Text.pieces_append]

/-- What is joined to a path adds the pieces of its text; a slash at the end of the path has none
of its own then. -/
theorem exists_body_join {p q : Path} (hp : p.text ≠ "") (hq : q.head ≠ .root) :
    (p.join q).head = p.head ∧ ∃ b, (p.body = b ∨ p.body = b ++ [[]]) ∧
      (p.join q).body = b ++ Text.pieces '/' q.text.toList := by
  have habs : q.isAbsolute = false := by simpa [isAbsolute] using hq
  obtain ⟨p⟩ := p
  simp only at hp
  by_cases hl : p.toList.getLast? = some '/'
  · obtain ⟨cs, hcs⟩ := List.getLast?_eq_some_iff.1 hl
    obtain rfl : p = String.ofList (cs ++ ['/']) := by rw [← hcs, String.ofList_toList]
    have hjoin : (Path.mk (String.ofList (cs ++ ['/']))).join q =
        ⟨String.ofList (cs ++ '/' :: q.text.toList)⟩ := by
      have htext : String.ofList (cs ++ ['/']) ++ q.text =
          String.ofList (cs ++ '/' :: q.text.toList) := by
        rw [← String.toList_inj]
        simp
      rw [← htext]
      unfold join
      rw [if_neg (by simp [habs]), if_pos (by simp)]
    rw [hjoin]
    by_cases hnil : cs = []
    · subst hnil
      simp [head, body, cutHead, Text.pieces]
    · obtain ⟨hhead, hbody⟩ := head_body_append_slash hnil []
      obtain ⟨hhead', hbody'⟩ := head_body_append_slash hnil q.text.toList
      exact ⟨hhead'.trans hhead.symm, _, .inr hbody, hbody'⟩
  · have hjoin : (Path.mk p).join q = ⟨String.ofList (p.toList ++ '/' :: q.text.toList)⟩ := by
      have htext : p ++ "/" ++ q.text = String.ofList (p.toList ++ '/' :: q.text.toList) := by
        rw [← String.toList_inj]
        simp
      simp [join, habs, hp, hl, htext]
    rw [hjoin]
    have hne : p.toList ≠ [] := by simpa using hp
    obtain ⟨hhead, hbody⟩ := head_body_append_slash hne q.text.toList
    exact ⟨hhead, _, .inl rfl, hbody⟩

/-- Joining adds components, unless what is joined is absolute. -/
theorem components_join_of_ne {p q : Path} (hp : p.text ≠ "") (hq : q.head ≠ .root) :
    (p.join q).components = p.components ++ bodyComponents q.body := by
  obtain ⟨hhead, b, hb, hbody⟩ := exists_body_join hp hq
  have hsame : bodyComponents b = bodyComponents p.body := by
    rcases hb with hb | hb
    · rw [hb]
    · rw [hb, bodyComponents_append, bodyComponents_cons_of_isFiller rfl, bodyComponents_nil,
        List.append_nil]
  rw [components_eq, hhead, hbody, bodyComponents_append, hsame, bodyComponents_pieces_text hq,
    ← List.append_assoc, ← components_eq]

theorem components_join {p q : Path} (hq : q.head = .none) :
    (p.join q).components = p.components ++ q.components := by
  by_cases hp : p.text = ""
  · have hj : p.join q = q := by simp [join, isAbsolute, hq, hp]
    obtain rfl : p = ⟨""⟩ := by rw [← hp]
    rw [hj]
    rfl
  · rw [components_join_of_ne hp (by simp [hq]), components_eq q, hq]
    rfl

/-- Of the slashes between two names all but one stand for pieces without text. -/
theorem head_body_of_slashes {p : Path} {a b : List Char} {n : Nat} (ha : isFiller a = false)
    (has : '/' ∉ a) (hbs : '/' ∉ b)
    (h : p.text.toList = a ++ (List.replicate (n + 1) '/' ++ b)) :
    p.head = .none ∧ p.body = a :: (List.replicate n [] ++ [b]) := by
  have hcut := cutHead_append_of_counts ha has (List.replicate (n + 1) '/' ++ b)
  unfold head body
  rw [h, hcut]
  refine ⟨rfl, ?_⟩
  rw [List.replicate_succ, List.cons_append, Text.pieces_append, Text.pieces_of_not_mem has,
    Text.pieces_replicate_append, Text.pieces_of_not_mem hbs, List.singleton_append]

/-! ## Slashes at the end -/

theorem size_slashes (n : Nat) : (String.ofList (List.replicate n '/')).utf8ByteSize = n := by
  induction n with
  | zero => rfl
  | succ n ih =>
    have hslash : ('/' : Char).utf8Size = 1 := by decide
    rw [List.replicate_succ, String.ofList_cons, String.utf8ByteSize_append, ih,
      String.utf8ByteSize_singleton, hslash, Nat.add_comm]

/-- A name with slashes at its end, which make it longer and nothing else. -/
def slashed (name : String) (n : Nat) : Path :=
  ⟨name ++ String.ofList (List.replicate (n + 1) '/')⟩

theorem toList_slashed (name : String) (n : Nat) :
    (slashed name n).text.toList = name.toList ++ List.replicate (n + 1) '/' := by
  simp [slashed]

theorem size_slashed (name : String) (n : Nat) :
    (slashed name n).text.utf8ByteSize = name.utf8ByteSize + (n + 1) := by
  rw [slashed, String.utf8ByteSize_append, size_slashes]

theorem head_bodyComponents_slashed (name : String) (n : Nat) (h : isFiller name.toList = false)
    (hs : '/' ∉ name.toList) : (slashed name n).head = .none ∧
      bodyComponents (slashed name n).body = [pieceComponent name.toList] := by
  obtain ⟨hhead, hbody⟩ := head_body_of_slashes (p := slashed name n) (b := []) h hs (by simp)
    (by simpa using toList_slashed name n)
  have hfillers : ∀ x ∈ List.replicate n [] ++ [[]], isFiller x = true := by
    intro x hx
    rcases List.mem_append.1 hx with hx | hx
    · rw [List.eq_of_mem_replicate hx]
      rfl
    · rw [List.mem_singleton.1 hx]
      rfl
  rw [hbody, bodyComponents_cons h, bodyComponents_eq_nil hfillers]
  exact ⟨hhead, rfl⟩

theorem join_slashed (name : String) (n : Nat) {q : Path} (hq : q.isAbsolute = false) :
    (slashed name n).join q = ⟨(slashed name n).text ++ q.text⟩ := by
  have hlast : (slashed name n).text.toList.getLast? = some '/' := by
    rw [toList_slashed, List.replicate_succ', ← List.append_assoc, List.getLast?_concat]
  unfold join
  rw [hq, hlast]
  simp

theorem text_isPrefix_join {p q : Path} (h : q.head = .none) :
    p.text.toList <+: (p.join q).text.toList := by
  unfold join isAbsolute
  rw [h]
  simp only [reduceCtorEq, decide_false, Bool.false_eq_true, if_false]
  split
  · rw [String.toList_append]
    exact List.prefix_append _ _
  · rw [String.toList_append, String.toList_append, List.append_assoc]
    exact List.prefix_append _ _

/-! ## Parents -/

theorem exists_of_mem_parentBodies {bs x : List (List Char)} (h : x ∈ parentBodies bs) :
    ∃ pre b suf, bs = pre ++ b :: suf ∧ isFiller b = false ∧ x = suf.dropWhile isFiller := by
  induction bs with
  | nil => simp [parentBodies] at h
  | cons b bs ih =>
    have step : x ∈ parentBodies bs → ∃ pre b' suf, b :: bs = pre ++ b' :: suf ∧
        isFiller b' = false ∧ x = suf.dropWhile isFiller := by
      intro hx
      obtain ⟨pre, b', suf, rfl, hb', rfl⟩ := ih hx
      exact ⟨b :: pre, b', suf, rfl, hb', rfl⟩
    by_cases hb : isFiller b = true
    · rw [parentBodies, if_pos hb] at h
      exact step h
    · rw [Bool.not_eq_true] at hb
      rw [parentBodies, if_neg (by simp [hb])] at h
      rcases List.mem_cons.1 h with rfl | h
      · exact ⟨[], b, bs, rfl, hb, rfl⟩
      · exact step h

/-- How a path above another one comes from its pieces. -/
structure CutFrom (p q : Path) (kept fillers : List (List Char)) (piece : List Char)
    (after : List (List Char)) : Prop where
  eq : q = ofBody p.head kept
  body : p.body = kept ++ (fillers ++ piece :: after)
  kept_ends : EndsCounting kept
  fillers_count : ∀ x ∈ fillers, isFiller x = true
  piece_counts : isFiller piece = false

/-- A path above another one is that path cut off before a piece that counts. -/
theorem cutFrom_of_mem_parents {p q : Path} (h : q ∈ p.parents) :
    (∃ kept fillers piece after, CutFrom p q kept fillers piece after) ∨
      p.head = .current ∧ q = ⟨""⟩ := by
  unfold parents at h
  rcases List.mem_append.1 h with h | h
  · left
    obtain ⟨x, hx, rfl⟩ := List.mem_map.1 h
    obtain ⟨pre, b, suf, hbs, hb, rfl⟩ := exists_of_mem_parentBodies hx
    have hsuf : suf.reverse =
        (suf.dropWhile isFiller).reverse ++ (suf.takeWhile isFiller).reverse := by
      rw [← List.reverse_append, List.takeWhile_append_dropWhile]
    have hbody : p.body = (suf.dropWhile isFiller).reverse ++
        ((suf.takeWhile isFiller).reverse ++ b :: pre.reverse) := by
      rw [← List.reverse_reverse p.body, hbs]
      simp [hsuf]
    exact ⟨_, _, _, _, rfl, hbody, endsCounting_reverse_dropWhile suf, fun y hy =>
      List.all_eq_true.1 List.all_takeWhile y (List.mem_reverse.1 hy), hb⟩
  · right
    split at h
    · rename_i hh
      exact ⟨hh, List.mem_singleton.1 h⟩
    · simp at h

section

variable {p q : Path} {kept fillers after : List (List Char)} {piece : List Char}

theorem CutFrom.isPrefix (h : CutFrom p q kept fillers piece after) : kept <+: p.body :=
  ⟨_, h.body.symm⟩

theorem CutFrom.components (h : CutFrom p q kept fillers piece after) :
    p.components = q.components ++ pieceComponent piece :: bodyComponents after := by
  rw [h.eq, components_ofBody h.isPrefix h.kept_ends, components_eq p]
  conv => lhs; rw [h.body]
  rw [bodyComponents_append, bodyComponents_append, bodyComponents_eq_nil h.fillers_count,
    bodyComponents_cons h.piece_counts, List.nil_append, List.append_assoc]

theorem CutFrom.text (h : CutFrom p q kept fillers piece after) :
    q.text.toList <+: p.text.toList := by
  conv => rhs; rw [← chars_append_cutHead p.text.toList]
  rw [h.eq]
  simp only [ofBody, String.toList_ofList, head]
  refine (List.prefix_append_right_inj _).2 ?_
  conv => rhs; rw [← Text.join_pieces '/' (cutHead p.text.toList).2]
  exact Text.join_isPrefix _ h.isPrefix

end

/-- A path above another one stands at the start of its components and of its text. -/
theorem of_mem_parents {p q : Path} (h : q ∈ p.parents) :
    (∃ c cs, p.components = q.components ++ c :: cs) ∧ q.text.toList <+: p.text.toList := by
  rcases cutFrom_of_mem_parents h with ⟨kept, fillers, piece, after, hc⟩ | ⟨hh, rfl⟩
  · exact ⟨⟨_, _, hc.components⟩, hc.text⟩
  · refine ⟨⟨.current, bodyComponents p.body, ?_⟩, by simp⟩
    rw [components_eq p, hh]
    rfl

/-! ## Parents of parents -/

theorem parentBodies_dropWhile (b : List (List Char)) :
    parentBodies (b.dropWhile isFiller) = parentBodies b := by
  induction b with
  | nil => rfl
  | cons x b ih =>
    by_cases hx : isFiller x = true
    · rw [List.dropWhile_cons_of_pos hx, ih, parentBodies, if_pos hx]
    · rw [List.dropWhile_cons_of_neg hx]

theorem exists_of_parentBodies_eq_cons {bs x : List (List Char)} {xs : List (List (List Char))}
    (h : parentBodies bs = x :: xs) :
    ∃ suf, x = suf.dropWhile isFiller ∧ xs = parentBodies suf ∧ x.reverse <+: bs.reverse := by
  induction bs with
  | nil => cases h
  | cons b bs ih =>
    rw [parentBodies] at h
    split at h
    · obtain ⟨suf, hx, hxs, hp⟩ := ih h
      exact ⟨suf, hx, hxs, by rw [List.reverse_cons]; exact hp.trans (List.prefix_append _ _)⟩
    · obtain ⟨rfl, rfl⟩ := List.cons.inj h
      refine ⟨bs, rfl, rfl, List.reverse_prefix.2 ?_⟩
      exact (List.dropWhile_suffix _).trans (List.suffix_cons b bs)

theorem head_ofBody {p : Path} {b : List (List Char)} (hb : b <+: p.body) (he : EndsCounting b) :
    (ofBody p.head b).head = p.head := by
  unfold head
  rw [ofBody, String.toList_ofList, cutHead_chars_append_join hb he]

theorem body_ofBody {p : Path} {b : List (List Char)} (hb : b <+: p.body) (he : EndsCounting b) :
    (ofBody p.head b).body = if b = [] then [[]] else b := by
  unfold body
  rw [ofBody, String.toList_ofList, head, cutHead_chars_append_join hb he]
  split
  · rename_i h
    rw [h]
    rfl
  · rename_i h
    exact Text.pieces_join h fun x hx => not_mem_of_mem_body (hb.subset hx)

/-- The paths above a path are its nearest one and the paths above that. -/
theorem eq_parents_of_parents_eq_cons {p q : Path} {qs : List Path} (h : p.parents = q :: qs) :
    qs = q.parents := by
  unfold parents at h
  cases hb : parentBodies p.body.reverse with
  | nil =>
    rw [hb, List.map_nil, List.nil_append] at h
    split at h
    · obtain ⟨rfl, rfl⟩ := List.cons.inj h
      rfl
    · cases h
  | cons x xs =>
    rw [hb, List.map_cons, List.cons_append] at h
    obtain ⟨rfl, rfl⟩ := List.cons.inj h
    obtain ⟨suf, rfl, rfl, hpre⟩ := exists_of_parentBodies_eq_cons hb
    rw [List.reverse_reverse] at hpre
    have he := endsCounting_reverse_dropWhile suf
    have hrest : parentBodies (ofBody p.head (suf.dropWhile isFiller).reverse).body.reverse =
        parentBodies suf := by
      rw [body_ofBody hpre he, ← parentBodies_dropWhile suf]
      split
      · rename_i hnil
        rw [List.reverse_eq_nil_iff.1 hnil]
        rfl
      · rw [List.reverse_reverse]
    rw [parents, hrest, head_ofBody hpre he]

/-! ## What remains below a path -/

theorem dropCounting_isSuffix (n : Nat) (b : List (List Char)) : dropCounting n b <:+ b := by
  induction b generalizing n with
  | nil => cases n <;> exact List.suffix_refl _
  | cons x b ih =>
    cases n with
    | zero => exact List.suffix_refl _
    | succ n =>
      rw [dropCounting]
      split
      · exact (ih _).trans (List.suffix_cons x b)
      · exact (ih _).trans (List.suffix_cons x b)

theorem bodyComponents_dropCounting (n : Nat) (b : List (List Char)) :
    bodyComponents (dropCounting n b) = (bodyComponents b).drop n := by
  induction b generalizing n with
  | nil => cases n <;> simp [dropCounting]
  | cons x b ih =>
    cases n with
    | zero => rfl
    | succ n =>
      by_cases hx : isFiller x = true
      · rw [dropCounting, if_pos hx, ih, bodyComponents_cons_of_isFiller hx]
      · rw [dropCounting, if_neg hx, ih, bodyComponents_cons (by simpa using hx),
          List.drop_succ_cons]

theorem length_head_components_le (h : Head) : h.components.length ≤ 1 := by
  cases h <;> simp [Head.components]

theorem startsWith_iff {p q : Path} :
    p.startsWith q = true ↔ ∃ cs, p.components = q.components ++ cs := by
  rw [startsWith, List.isPrefixOf_iff_prefix]
  exact ⟨fun ⟨cs, h⟩ => ⟨cs, h.symm⟩, fun ⟨cs, h⟩ => ⟨cs, h.symm⟩⟩

/-- Stripping takes components from the front and nothing else. -/
theorem components_of_stripPrefix? {p q r : Path} (h : p.stripPrefix? q = some r) :
    p.components = q.components ++ r.components := by
  unfold stripPrefix? at h
  split at h
  case isFalse => cases h
  rename_i hs
  obtain ⟨cs, hcs⟩ := startsWith_iff.1 hs
  split at h
  · rename_i hq
    obtain rfl := Option.some.inj h
    rw [hq, List.nil_append,
      components_ofBody (dropFillerEnd_isPrefix _) (endsCounting_reverse_dropWhile _),
      bodyComponents_dropFillerEnd, components_eq]
  · rename_i hq
    obtain rfl := Option.some.inj h
    have hlen : p.head.components.length ≤ q.components.length :=
      Nat.le_trans (length_head_components_le _) (List.length_pos_iff.2 hq)
    have hrest :
        (bodyComponents p.body).drop (q.components.length - p.head.components.length) = cs := by
      have h := congrArg (List.drop q.components.length) hcs
      rwa [components_eq p, List.drop_append, List.drop_of_length_le hlen, List.nil_append,
        List.drop_left] at h
    generalize q.components.length - p.head.components.length = n at hrest
    have hpre := dropFillerEnd_isPrefix ((dropCounting n p.body).dropWhile isFiller)
    rw [components_ofBody_none, bodyComponents_dropFillerEnd, bodyComponents_dropWhile,
      bodyComponents_dropCounting, hrest, hcs]
    · intro x hx
      exact not_mem_of_mem_body ((dropCounting_isSuffix n p.body).subset
        ((List.dropWhile_suffix _).subset (hpre.subset hx)))
    · intro x hx
      have hd := List.head?_dropWhile_not isFiller (dropCounting n p.body)
      obtain ⟨y, hy⟩ := List.head?_eq_some_iff.1 hx
      rw [hy] at hpre
      obtain ⟨t, ht⟩ := hpre
      rw [← ht] at hd
      simpa using hd

/-- A path that starts with the components of another one can be stripped of it. -/
theorem exists_stripPrefix? {p q : Path} {cs : List Component}
    (h : p.components = q.components ++ cs) :
    ∃ r, p.stripPrefix? q = some r ∧ r.components = cs := by
  obtain ⟨r, hr⟩ : ∃ r, p.stripPrefix? q = some r := by
    unfold stripPrefix?
    rw [if_pos (startsWith_iff.2 ⟨_, h⟩)]
    split
    · exact ⟨_, rfl⟩
    · exact ⟨_, rfl⟩
  have hcs := components_of_stripPrefix? hr
  rw [h] at hcs
  exact ⟨r, hr, (List.append_cancel_left hcs).symm⟩

end EndpointStubs.Path
