import EndpointStubs.Proofs.Syntax.Printed
import EndpointStubs.Syntax.AngleList

/-!
# What parsers take

A parser goes over tokens in front and adds to those taken before. `TakesAs plain p Q` says how the
answer of `p`, the tokens that it goes over and those that it adds belong together; if `plain`, and
if the tokens that it goes over are plain, all of them are simple.

    TakesAs plain p Q, TakesAs plain (f a) R for the answers a of p
      →  TakesAs plain (p >>= f) (Q and then R)
-/

namespace EndpointStubs.Syntax

open TokenTree

variable {ts us : List TokenTree} {blocks : Bool}

/-! ## Plain tokens -/

theorem IsSimple.append (h : IsSimple blocks ts) (h' : IsSimple blocks us) :
    IsSimple blocks (ts ++ us) := by
  induction h with
  | nil => exact h'
  | word hw _ ih => exact .word hw ih
  | lifetime hw _ ih => exact .lifetime hw ih
  | punct hc hblocks _ ih => exact .punct hc hblocks ih
  | group hblocks hinner _ _ ih => exact .group hblocks hinner ih

/-- A token that simple ones consist of, without blocks. -/
def TokenTree.IsPlain : TokenTree → Prop
  | .word w => w.IsSimple
  | .punct c _ => c = '\'' ∨ c ∈ signs ∧ c ≠ ';'
  | .literal _ => False
  | .group d inner => d ≠ .brace ∧ IsSimple false inner

theorem IsSimple.isPlain (h : IsSimple false ts) : ∀ t ∈ ts, t.IsPlain := by
  induction h with
  | nil => simp
  | word hw _ ih => exact List.forall_mem_cons.2 ⟨hw, ih⟩
  | lifetime hw _ ih => exact List.forall_mem_cons.2 ⟨.inl rfl, List.forall_mem_cons.2 ⟨hw, ih⟩⟩
  | punct hc hblocks _ ih =>
    refine List.forall_mem_cons.2 ⟨.inr ⟨hc, fun h => ?_⟩, ih⟩
    cases hblocks h
  | group hblocks hinner _ _ ih =>
    refine List.forall_mem_cons.2 ⟨⟨fun h => ?_, hinner⟩, ih⟩
    cases hblocks h

/-- Punctuation characters in a row, in token trees of their own. -/
def ArePuncts (cs : List Char) (ts : List TokenTree) : Prop :=
  List.Forall₂ (fun c t => ∃ joint, t = .punct c joint) cs ts

theorem ArePuncts.isSimple {cs : List Char} (h : ArePuncts cs ts) (hcs : '\'' ∉ cs)
    (hts : ∀ t ∈ ts, t.IsPlain) : IsSimple false ts := by
  induction h with
  | nil => exact .nil
  | @cons c t cs ts ht _ ih =>
    obtain ⟨joint, rfl⟩ := ht
    rw [List.mem_cons, not_or] at hcs
    rw [List.forall_mem_cons] at hts
    obtain hquote | ⟨hsign, hne⟩ := hts.1
    · exact absurd hquote.symm hcs.1
    · exact .punct hsign (fun h => absurd h hne) (ih hcs.2 hts.2)

theorem arePuncts_of_isPuncts {cs : List Char} (h : Ahead.isPuncts cs ts = true) :
    ArePuncts cs (ts.take cs.length) := by
  fun_induction Ahead.isPuncts cs ts with
  | case1 c d joint ts =>
    obtain rfl := of_decide_eq_true h
    exact .cons ⟨joint, rfl⟩ .nil
  | case2 c cs d joint ts hne ih =>
    simp only [Bool.and_eq_true, decide_eq_true_eq] at h
    obtain ⟨⟨rfl, -⟩, h⟩ := h
    exact .cons ⟨joint, rfl⟩ (ih h)
  | case3 => cases h

namespace Parse

variable {α β : Type} {plain : Prop} {p : Parse α} {f : α → Parse β}
  {Q Q' : α → List TokenTree → List TokenTree → Prop}
  {R : β → List TokenTree → List TokenTree → Prop}

/-! ## The judgment -/

/-- The parser adds to what was taken. Its answer, the tokens that it goes over and those that it
adds are as `Q` says, and these tokens are simple, if `plain` and if those that it goes over are
plain. -/
def TakesAs (plain : Prop) (p : Parse α) (Q : α → List TokenTree → List TokenTree → Prop) : Prop :=
  ∀ c a c' front, p.run c = some (a, c') → c.rest = front ++ c'.rest →
    (plain → ∀ t ∈ front, t.IsPlain) → ∃ added, c'.taken = added.reverse ++ c.taken ∧
      (plain → IsSimple false front ∧ IsSimple false added) ∧ Q a front added

/-- The parser adds to what was taken. -/
def Takes (plain : Prop) (p : Parse α) : Prop := TakesAs plain p fun _ _ _ => True

theorem TakesAs.mono (h : TakesAs plain p Q)
    (hQ : ∀ a front added, (plain → IsSimple false front ∧ IsSimple false added) →
      Q a front added → Q' a front added) : TakesAs plain p Q' := by
  intro c a c' front hrun hrest hplain
  obtain ⟨added, htaken, hsimple, hq⟩ := h c a c' front hrun hrest hplain
  exact ⟨added, htaken, hsimple, hQ a front added hsimple hq⟩

theorem TakesAs.takes (h : TakesAs plain p Q) : Takes plain p := h.mono fun _ _ _ _ _ => trivial

/-- What two parsers in a row go over is what the one does and then the other. -/
theorem exists_fronts {c c' c'' : Cursor} {a : α} {b : β} {front : List TokenTree}
    (hp : p.run c = some (a, c')) (hf : (f a).run c' = some (b, c''))
    (hrest : c.rest = front ++ c''.rest) :
    ∃ front₁ front₂, front = front₁ ++ front₂ ∧ c.rest = front₁ ++ c'.rest ∧
      c'.rest = front₂ ++ c''.rest := by
  obtain ⟨front₁, hfront₁⟩ := p.leavesEnd hp
  obtain ⟨front₂, hfront₂⟩ := (f a).leavesEnd hf
  refine ⟨front₁, front₂, ?_, hfront₁.symm, hfront₂.symm⟩
  rw [← hfront₁, ← hfront₂, ← List.append_assoc] at hrest
  exact (List.append_cancel_right hrest).symm

theorem TakesAs.bind (hp : TakesAs plain p Q)
    (hf : ∀ a front added, (plain → IsSimple false front ∧ IsSimple false added) →
      Q a front added →
      TakesAs plain (f a) fun b front' added' => R b (front ++ front') (added ++ added')) :
    TakesAs plain (p >>= f) R := by
  intro c b c'' front hrun hrest hplain
  obtain ⟨⟨a, c'⟩, hrunp, hrunf⟩ := Option.bind_eq_some_iff.1 hrun
  obtain ⟨front₁, front₂, rfl, hfront₁, hfront₂⟩ := exists_fronts hrunp hrunf hrest
  have hplain' := fun h => List.forall_mem_append.1 (hplain h)
  obtain ⟨added₁, htaken₁, hsimple₁, hq⟩ :=
    hp c a c' front₁ hrunp hfront₁ fun h => (hplain' h).1
  obtain ⟨added₂, htaken₂, hsimple₂, hr⟩ :=
    hf a front₁ added₁ hsimple₁ hq c' b c'' front₂ hrunf hfront₂ fun h => (hplain' h).2
  refine ⟨added₁ ++ added₂, ?_, fun h => ?_, hr⟩
  · rw [htaken₂, htaken₁, List.reverse_append, List.append_assoc]
  · exact ⟨(hsimple₁ h).1.append (hsimple₂ h).1, (hsimple₁ h).2.append (hsimple₂ h).2⟩

theorem Takes.bind (hp : Takes plain p) (hf : ∀ a, Takes plain (f a)) : Takes plain (p >>= f) :=
  TakesAs.bind hp fun a _ _ _ _ => hf a

theorem takesAs_pure {a : α} (h : Q a [] []) : TakesAs plain (pure a) Q := by
  rintro c _ _ front ⟨⟩ hrest -
  obtain rfl : front = [] := List.append_left_eq_self.1 hrest.symm
  exact ⟨[], rfl, fun _ => ⟨.nil, .nil⟩, h⟩

theorem takes_pure (a : α) : Takes plain (pure a) := takesAs_pure trivial

theorem takesAs_failure : TakesAs plain (failure : Parse α) Q := nofun

/-- Nothing is taken where the tokens ahead are only looked at. -/
theorem takesAs_look (answer : Cursor → α) :
    TakesAs plain (look answer) fun _ front added => front = [] ∧ added = [] := by
  rintro c _ _ front ⟨⟩ hrest -
  obtain rfl : front = [] := List.append_left_eq_self.1 hrest.symm
  exact ⟨[], rfl, fun _ => ⟨.nil, .nil⟩, rfl, rfl⟩

theorem takesAs_ahead (question : List TokenTree → Bool) :
    TakesAs plain (ahead question) fun _ front added => front = [] ∧ added = [] := by
  rintro c _ _ front ⟨⟩ hrest -
  obtain rfl : front = [] := List.append_left_eq_self.1 hrest.symm
  exact ⟨[], rfl, fun _ => ⟨.nil, .nil⟩, rfl, rfl⟩

/-- What comes after a look ahead is judged as if it came first. -/
theorem TakesAs.after (hp : TakesAs plain p fun _ front added => front = [] ∧ added = [])
    (hf : ∀ a, TakesAs plain (f a) R) : TakesAs plain (p >>= f) R := by
  refine hp.bind fun a front added _ h => ?_
  obtain ⟨rfl, rfl⟩ := h
  exact hf a

theorem takesAs_require (b : Bool) :
    TakesAs plain (require b) fun _ front added => front = [] ∧ added = [] := by
  unfold require
  split
  · exact takesAs_pure ⟨rfl, rfl⟩
  · exact takesAs_failure

/-! ## What counts as taken -/

theorem takesAs_emit (h : plain → IsSimple false ts) :
    TakesAs plain (emit ts) fun _ front added => front = [] ∧ added = ts := by
  rintro c _ _ front ⟨⟩ hrest -
  obtain rfl : front = [] := List.append_left_eq_self.1 hrest.symm
  exact ⟨ts, rfl, fun hplain => ⟨.nil, h hplain⟩, rfl, rfl⟩

/-- What a parser adds becomes part of the answer. -/
theorem TakesAs.capture (h : TakesAs plain p Q) :
    TakesAs plain (capture p) fun r front added =>
      added = [] ∧ (plain → IsSimple false r.2) ∧ Q r.1 front r.2 := by
  intro c r c' front hrun hrest hplain
  obtain ⟨⟨a, c''⟩, hp, ⟨⟩⟩ := Option.map_eq_some_iff.1 hrun
  obtain ⟨added, htaken, hsimple, hq⟩ := h _ a c'' front hp hrest hplain
  rw [List.append_nil] at htaken
  refine ⟨[], rfl, fun h => ⟨(hsimple h).1, .nil⟩, rfl, ?_⟩
  simp only [htaken, List.reverse_reverse]
  exact ⟨fun h => (hsimple h).2, hq⟩

theorem TakesAs.dropping (h : TakesAs plain p Q) :
    TakesAs plain (dropping p) fun _ _ added => added = [] := by
  refine h.capture.bind fun r front added _ hr => takesAs_pure ?_
  rw [hr.1]
  rfl

/-- What a parser goes over may count as what it adds. -/
theorem TakesAs.asWrittenIf {p : Parse (α × Bool)}
    {Q : α × Bool → List TokenTree → List TokenTree → Prop} (h : TakesAs plain p Q) :
    TakesAs plain (asWrittenIf p) fun a front added =>
      ∃ kept added', Q (a, kept) front added' ∧ (added = added' ∨ added = front) := by
  intro c a c' front hrun hrest hplain
  obtain ⟨⟨⟨b, kept⟩, c''⟩, hp, hout⟩ := Option.map_eq_some_iff.1 hrun
  cases kept with
  | false =>
    obtain ⟨rfl, rfl⟩ := Prod.mk.inj hout
    obtain ⟨added, htaken, hsimple, hq⟩ := h c _ _ front hp hrest hplain
    exact ⟨added, htaken, hsimple, false, added, hq, .inl rfl⟩
  | true =>
    obtain ⟨rfl, rfl⟩ := Prod.mk.inj hout
    obtain ⟨added, htaken, hsimple, hq⟩ := h c _ c'' front hp hrest hplain
    refine ⟨front, ?_, fun h => ⟨(hsimple h).1, (hsimple h).1⟩, true, added, hq, .inr rfl⟩
    have hlen : c.rest.length - c''.rest.length = front.length := by
      rw [show c.rest = front ++ c''.rest from hrest, List.length_append, Nat.add_sub_cancel]
    simp only [if_true, hlen]
    rw [show c.rest = front ++ c''.rest from hrest, List.take_left]

theorem Takes.asWrittenIf {p : Parse (α × Bool)} (h : Takes plain p) :
    Takes plain (Parse.asWrittenIf p) := (TakesAs.asWrittenIf h).takes

/-! ## Single tokens -/

/-- Tokens in front are taken as they are. -/
theorem takesAs_of_take (h : ∀ c a c', p.run c = some (a, c') → ∃ front,
      c.rest = front ++ c'.rest ∧ c'.taken = front.reverse ++ c.taken ∧
        ((∀ t ∈ front, t.IsPlain) → plain → IsSimple false front) ∧ Q a front front) :
    TakesAs plain p Q := by
  intro c a c' front hrun hrest hplain
  obtain ⟨front', hrest', htaken, hsimple, hq⟩ := h c a c' hrun
  obtain rfl : front' = front := List.append_cancel_right (hrest'.symm.trans hrest)
  have hboth := fun h => hsimple (hplain h) h
  exact ⟨front', htaken, fun h => ⟨hboth h, hboth h⟩, hq⟩

/-- Where the question is answered, the next `n` tokens are as `P` says, and simple if plain. -/
def Finds (question : List TokenTree → Bool) (n : Nat) (P : List TokenTree → Prop) : Prop :=
  ∀ ts, question ts = true →
    P (ts.take n) ∧ ((∀ t ∈ ts.take n, t.IsPlain) → IsSimple false (ts.take n))

section
variable {question : List TokenTree → Bool} {n : Nat} {P : List TokenTree → Prop}
  (h : Finds question n P)
include h

/-- The next tokens are taken if they answer a question. -/
theorem takesAs_found :
    TakesAs plain (do require (← ahead question); take n : Parse Unit) fun _ front added =>
      added = front ∧ P front := by
  refine takesAs_of_take fun c _ c' hrun => ?_
  replace hrun : (require (question c.rest) >>= fun _ => take n).run c = some ((), c') := hrun
  cases hq : question c.rest with
  | false =>
    rw [hq] at hrun
    cases hrun
  | true =>
    rw [hq] at hrun
    obtain ⟨-, rfl⟩ := Prod.mk.inj (Option.some.inj hrun)
    obtain ⟨hfront, hsimple⟩ := h c.rest hq
    exact ⟨_, (List.take_append_drop n c.rest).symm, rfl, fun hplain _ => hsimple hplain, rfl,
      hfront⟩

/-- The next tokens are taken if they answer a question, and otherwise none. -/
theorem takesAs_found? :
    TakesAs plain (do
      if ← ahead question then
        take n
        return true
      return false : Parse Bool) fun b front added =>
        added = front ∧ if b then P front else front = [] := by
  refine takesAs_of_take fun c b c' hrun => ?_
  replace hrun : (if question c.rest = true then do
      take n
      return true
    else return false : Parse Bool).run c = some (b, c') := hrun
  cases hq : question c.rest with
  | false =>
    rw [hq] at hrun
    obtain ⟨rfl, rfl⟩ := Prod.mk.inj (Option.some.inj hrun)
    exact ⟨[], rfl, rfl, fun _ _ => .nil, rfl, rfl⟩
  | true =>
    rw [hq] at hrun
    obtain ⟨rfl, rfl⟩ := Prod.mk.inj (Option.some.inj hrun)
    obtain ⟨hfront, hsimple⟩ := h c.rest hq
    exact ⟨_, (List.take_append_drop n c.rest).symm, rfl, fun hplain _ => hsimple hplain, rfl,
      hfront⟩

end

theorem finds_punct {s : String} (hs : '\'' ∉ s.toList) :
    Finds (Ahead.isPunct s) s.length (ArePuncts s.toList) := by
  intro ts hq
  have hpuncts : ArePuncts s.toList (ts.take s.length) := arePuncts_of_isPuncts hq
  exact ⟨hpuncts, hpuncts.isSimple hs⟩

theorem takesAs_punct {s : String} (hs : '\'' ∉ s.toList) :
    TakesAs plain (punct s) fun _ front added => added = front ∧ ArePuncts s.toList front :=
  takesAs_found (finds_punct hs)

theorem takesAs_punct? {s : String} (hs : '\'' ∉ s.toList) :
    TakesAs plain (punct? s) fun b front added =>
      added = front ∧ if b then ArePuncts s.toList front else front = [] :=
  takesAs_found? (finds_punct hs)

theorem isSimple_word {w : Word} (h : ∀ t ∈ [TokenTree.word w], t.IsPlain) :
    IsSimple false [.word w] := .word (h _ List.mem_cons_self) .nil

theorem finds_word (w : String) : Finds (Ahead.isWord w) 1 fun ts => ∃ t, ts = [.word t] := by
  intro ts hq
  unfold Ahead.isWord at hq
  split at hq
  · exact ⟨⟨_, rfl⟩, isSimple_word⟩
  · cases hq

theorem takesAs_word (w : String) :
    TakesAs plain (word w) fun _ front added => added = front ∧ ∃ t, front = [.word t] :=
  takesAs_found (finds_word w)

theorem takesAs_word? (w : String) :
    TakesAs plain (word? w) fun b front added =>
      added = front ∧ if b then ∃ t, front = [.word t] else front = [] :=
  takesAs_found? (finds_word w)

theorem finds_lifetime :
    Finds Ahead.isLifetime 2 fun ts => ∃ w, ts = [.punct '\'' true, .word w] := by
  intro ts hq
  unfold Ahead.isLifetime at hq
  split at hq
  · refine ⟨⟨_, rfl⟩, fun h => ?_⟩
    exact .lifetime (h _ (List.mem_cons_of_mem _ List.mem_cons_self)) .nil
  · cases hq

theorem takesAs_lifetime :
    TakesAs plain lifetime fun _ front added =>
      added = front ∧ ∃ w, front = [.punct '\'' true, .word w] :=
  takesAs_found finds_lifetime

theorem takesAs_lifetime? :
    TakesAs plain lifetime? fun b front added =>
      added = front ∧ if b then ∃ w, front = [.punct '\'' true, .word w] else front = [] :=
  takesAs_found? finds_lifetime

/-- What is done next depends on the tokens that remain. -/
theorem run_rest_bind (f : List TokenTree → Parse β) (c : Cursor) :
    (Parse.rest >>= f).run c = (f c.rest).run c := rfl

theorem run_rewrite_bind (change : List TokenTree → List TokenTree) (f : Unit → Parse β)
    (c : Cursor) : (rewrite change >>= f).run c = (f ()).run { c with taken := change c.taken } :=
  rfl

theorem takesAs_anyWord :
    TakesAs plain anyWord fun w front added => added = front ∧ front = [.word w] := by
  refine takesAs_of_take fun c w c' hrun => ?_
  rw [anyWord, run_rest_bind] at hrun
  split at hrun
  · rename_i t us hrest
    obtain ⟨rfl, rfl⟩ := Prod.mk.inj (Option.some.inj hrun)
    rw [hrest]
    exact ⟨[.word _], rfl, rfl, fun h _ => isSimple_word h, rfl, rfl⟩
  · cases hrun

theorem isSimple_group {d : Delimiter} {inner : List TokenTree}
    (h : ∀ t ∈ [TokenTree.group d inner], t.IsPlain) : IsSimple false [.group d inner] := by
  obtain ⟨hne, hinner⟩ := h _ List.mem_cons_self
  exact .group (fun hbrace => absurd hbrace hne) hinner .nil

theorem takes_anyGroup : Takes plain anyGroup := by
  refine takesAs_of_take fun c r c' hrun => ?_
  rw [anyGroup, run_rest_bind] at hrun
  split at hrun
  · rename_i d inner us hrest
    obtain ⟨rfl, rfl⟩ := Prod.mk.inj (Option.some.inj hrun)
    rw [hrest]
    exact ⟨[.group d inner], rfl, rfl, fun h _ => isSimple_group h, trivial⟩
  · cases hrun

/-! ## Groups -/

theorem exists_of_run_group {d : Delimiter} {c c' : Cursor} {a : α}
    (h : (group d p).run c = some (a, c')) : ∃ inner outside r, c.rest = .group d inner :: outside ∧
      p.run { rest := inner } = some (a, r) ∧ c'.rest = outside ∧
      c'.taken = .group d r.taken.reverse :: c.taken := by
  simp only [group] at h
  split at h
  · rename_i e inner outside hrest
    split at h
    · rename_i heq
      subst heq
      obtain ⟨⟨b, r⟩, hp, hout⟩ := Option.map_eq_some_iff.1 h
      obtain ⟨rfl, rfl⟩ := Prod.mk.inj hout
      exact ⟨inner, outside, r, hrest, hp, rfl, rfl⟩
    · cases h
  · cases h

/-- What is gone over with a group is that group. -/
theorem exists_of_run_group_front {d : Delimiter} {c c' : Cursor} {a : α} {front : List TokenTree}
    (h : (group d p).run c = some (a, c')) (hrest : c.rest = front ++ c'.rest) :
    ∃ whole r, front = [.group d whole] ∧ p.run { rest := whole } = some (a, r) ∧
      c'.taken = .group d r.taken.reverse :: c.taken := by
  obtain ⟨whole, outside, r, hc, hp, hc', htaken⟩ := exists_of_run_group h
  rw [hc, hc', ← List.singleton_append] at hrest
  exact ⟨whole, r, (List.append_cancel_right hrest).symm, hp, htaken⟩

/-- A group is gone over whole, and what its parser adds is added inside one. -/
theorem TakesAs.group {d : Delimiter} (h : TakesAs plain p Q) :
    TakesAs plain (group d p) fun a front added => ∃ inner rest added',
      front = [.group d (inner ++ rest)] ∧ added = [.group d added'] ∧ Q a inner added' := by
  intro c a c' front hrun hrest hplain
  obtain ⟨whole, r, rfl, hp, htaken⟩ := exists_of_run_group_front hrun hrest
  obtain ⟨inner, hinner⟩ := p.leavesEnd hp
  have hwhole : plain → d ≠ .brace ∧ IsSimple false whole :=
    fun h => hplain h _ List.mem_cons_self
  obtain rfl : inner ++ r.rest = whole := hinner
  have hplain' : plain → ∀ t ∈ inner, t.IsPlain := fun h t ht =>
    (hwhole h).2.isPlain t (List.mem_append_left _ ht)
  obtain ⟨added', htaken', hsimple, hq⟩ := h _ a r inner hp rfl hplain'
  rw [List.append_nil] at htaken'
  refine ⟨[.group d added'], ?_, fun h => ⟨isSimple_group (hplain h), ?_⟩,
    inner, r.rest, added', rfl, rfl, hq⟩
  · rw [htaken, htaken', List.reverse_reverse]
    rfl
  · exact .group (fun hbrace => absurd hbrace (hwhole h).1) (hsimple h).2 .nil

/-- What stands inside a group matters if the tokens are to be simple. -/
theorem takesAs_group {d : Delimiter} (h : plain → d ≠ .brace → Takes plain p) :
    TakesAs plain (group d p) fun _ front added => ∃ inner added',
      front = [.group d inner] ∧ added = [.group d added'] := by
  by_cases hplain : plain ∧ d ≠ .brace
  · refine (h hplain.1 hplain.2).group.mono ?_
    rintro a _ _ - ⟨inner, rest, added', rfl, rfl, -⟩
    exact ⟨_, _, rfl, rfl⟩
  · intro c a c' front hrun hrest hfront
    obtain ⟨whole, r, rfl, -, htaken⟩ := exists_of_run_group_front hrun hrest
    have hwhole : plain → d ≠ .brace ∧ IsSimple false whole :=
      fun h => hfront h _ List.mem_cons_self
    exact ⟨[.group d r.taken.reverse], htaken, fun h => absurd ⟨h, (hwhole h).1⟩ hplain,
      _, _, rfl, rfl⟩

/-! ## Repetition -/

theorem takes_listUpTo {stop : List TokenTree → Bool} {sep : String} (hsep : '\'' ∉ sep.toList)
    (h : Takes plain p) (n : Nat) : Takes plain (listUpTo stop sep p n) := by
  induction n with
  | zero => exact takesAs_failure
  | succ n ih =>
    rw [listUpTo]
    refine (takesAs_ahead _).after fun b => ?_
    split
    · exact takes_pure _
    · refine h.bind fun a => (takesAs_ahead _).after fun b => ?_
      split
      · exact takes_pure _
      · exact (takesAs_punct hsep).takes.bind fun _ => ih.bind fun _ => takes_pure _

theorem takes_list {stop : List TokenTree → Bool} {sep : String} (hsep : '\'' ∉ sep.toList)
    (h : Takes plain p) : Takes plain (list stop sep p) :=
  (takesAs_look _).after fun _ => (takes_listUpTo hsep h _).bind fun _ => takes_pure _

theorem takes_commaList (h : Takes plain p) : Takes plain (commaList p) :=
  takes_list (by decide) h

theorem takes_chainUpTo {stop : List TokenTree → Bool} {sep : String} (hsep : '\'' ∉ sep.toList)
    (h : Takes plain p) (n : Nat) : Takes plain (chainUpTo stop sep p n) := by
  induction n with
  | zero => exact takesAs_failure
  | succ n ih =>
    rw [chainUpTo]
    refine (takesAs_ahead _).after fun b => ?_
    split
    · exact takes_pure _
    · refine h.bind fun a => (takesAs_punct? hsep).takes.bind fun b => ?_
      split
      · exact ih.bind fun _ => takes_pure _
      · exact takes_pure _

theorem takes_chain {stop : List TokenTree → Bool} {sep : String} (hsep : '\'' ∉ sep.toList)
    (h : Takes plain p) : Takes plain (chain stop sep p) :=
  (takesAs_look _).after fun _ => takes_chainUpTo hsep h _

end Parse

/-! ## Lists in angle brackets -/

open Parse

variable {plain : Prop}

theorem takesAs_entries {entry : Parse EntryKind} (h : Takes plain entry) (n : Nat) :
    TakesAs plain (entries entry n) fun es _ _ =>
      plain → ∀ e ∈ es, IsSimple false e.tokens := by
  induction n with
  | zero => exact takesAs_failure
  | succ n ih =>
    rw [entries]
    refine (takesAs_ahead _).after fun b => ?_
    split
    · exact takesAs_pure (by simp)
    · refine h.capture.bind fun r _ _ _ hr => (takesAs_ahead _).after fun b => ?_
      split
      · exact takesAs_pure (by simpa using hr.2.1)
      · refine (takesAs_punct (by decide)).dropping.bind fun _ _ _ _ _ => ?_
        refine ih.bind fun es _ _ _ hes => takesAs_pure fun hplain => ?_
        exact List.forall_mem_cons.2 ⟨hr.2.1 hplain, hes hplain⟩

namespace Entry

variable {es : List Entry}

theorem isSimple_separator : IsSimple false separator := .punct (by decide) (by decide) .nil

theorem isSimple_print {e : Entry} (h : IsSimple false e.tokens) : IsSimple false e.print := by
  unfold print
  split
  · exact h.append isSimple_separator
  · exact h.append .nil

theorem isSimple_printAfter (h : ∀ e ∈ es, IsSimple false e.tokens) (separated : Bool) :
    IsSimple false (printAfter separated es) := by
  induction es generalizing separated with
  | nil => exact .nil
  | cons e es ih =>
    rw [List.forall_mem_cons] at h
    rw [printAfter]
    refine (IsSimple.append ?_ (isSimple_print h.1)).append (ih h.2 _)
    split
    · exact .nil
    · exact isSimple_separator

theorem isSimple_printAll (h : ∀ e ∈ es, IsSimple false e.tokens) :
    IsSimple false (printAll es) := by
  refine IsSimple.append ?_ (isSimple_printAfter (fun e he => h e (List.mem_filter.1 he).1) _)
  have hlifetimes : ∀ e ∈ es.filter fun e => e.kind = .lifetime, IsSimple false e.tokens :=
    fun e he => h e (List.mem_filter.1 he).1
  generalize es.filter (fun e => e.kind = .lifetime) = ls at hlifetimes
  induction ls with
  | nil => exact .nil
  | cons e ls ih =>
    rw [List.forall_mem_cons] at hlifetimes
    exact (isSimple_print hlifetimes.1).append (ih hlifetimes.2)

end Entry

theorem takes_angleList {emptyStands : Bool} {entry : Parse EntryKind} (h : Takes plain entry) :
    Takes plain (angleList emptyStands entry) := by
  unfold angleList
  refine (takesAs_punct (by decide)).capture.bind ?_
  rintro ⟨_, opening⟩ - - - ⟨-, hopening, -⟩
  refine (takesAs_look _).after fun ts => (takesAs_entries h _).capture.bind ?_
  rintro ⟨es, _⟩ - - - ⟨-, -, hes⟩
  refine (takesAs_punct (by decide)).capture.bind ?_
  rintro ⟨_, closing⟩ - - - ⟨-, hclosing, -⟩
  dsimp only
  split
  · refine (takesAs_emit fun hplain => ?_).takes
    exact ((hopening hplain).append (Entry.isSimple_printAll (hes hplain))).append
      (hclosing hplain)
  · exact takes_pure _

theorem takes_afterColon {p : Parse Unit} (h : Takes plain p) : Takes plain (afterColon p) := by
  unfold afterColon
  refine (takesAs_punct? (by decide)).capture.bind ?_
  rintro ⟨colon, mark⟩ - - - ⟨-, hmark, -⟩
  dsimp only
  split
  · refine h.capture.bind ?_
    rintro ⟨_, ts⟩ - - - ⟨-, hts, -⟩
    dsimp only
    split
    · exact (takesAs_emit fun hplain => (hmark hplain).append (hts hplain)).takes
    · exact takes_pure _
  · exact takes_pure _

end EndpointStubs.Syntax
