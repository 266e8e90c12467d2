import EndpointStubs.Syntax.SourceText

/-!
# Running parsers

`Gives ok p ts rest a` says what a parser does with tokens in front, whatever was taken before: if
`ok`, it has the answer `a` and leaves just what stands behind them, and otherwise it has no answer.
What stands behind belongs to the judgment, as parsers look ahead.

    Gives true p ts (us ++ rest) a, Gives ok (f a) us rest b
      →  Gives ok (p >>= f) (ts ++ us) rest b
-/

namespace EndpointStubs.Syntax.Parse

variable {α β : Type} {p : Parse α} {f : α → Parse β} {a : α} {b : β} {ok : Bool}
  {ts us rest : List TokenTree}

/-- Has the answer for these tokens, and leaves those behind them, or fails. -/
def Gives (ok : Bool) (p : Parse α) (ts rest : List TokenTree) (a : α) : Prop :=
  ∀ taken, ∃ taken',
    p.run ⟨ts ++ rest, taken, false⟩ = if ok then some (a, ⟨rest, taken', false⟩) else none

/-! ## One after the other -/

theorem run_bind (p : Parse α) (f : α → Parse β) (c : Cursor) :
    (p >>= f).run c = (p.run c).bind fun r => (f r.1).run r.2 := rfl

theorem Gives.bind (ts : List TokenTree) (hp : Gives true p ts (us ++ rest) a)
    (hf : Gives ok (f a) us rest b) : Gives ok (p >>= f) (ts ++ us) rest b := by
  intro taken
  obtain ⟨taken', h⟩ := hp taken
  obtain ⟨taken'', h'⟩ := hf taken'
  exact ⟨taken'', by rw [List.append_assoc, run_bind, h, if_pos rfl, Option.bind_some, h']⟩

/-- A step that takes nothing. -/
theorem Gives.then (hp : Gives true p [] (us ++ rest) a) (hf : Gives ok (f a) us rest b) :
    Gives ok (p >>= f) us rest b := .bind [] hp hf

/-- After a step that fails, nothing else is looked at. -/
theorem Gives.fail (hp : Gives false p ts (us ++ rest) a) (f : α → Parse β) (b : β) :
    Gives false (p >>= f) (ts ++ us) rest b := by
  intro taken
  obtain ⟨taken', h⟩ := hp taken
  exact ⟨taken', by rw [List.append_assoc, run_bind, h]; rfl⟩

/-- A step that may fail, and others that do not. -/
theorem Gives.last (hp : Gives ok p ts (us ++ rest) a) (hf : Gives true (f a) us rest b) :
    Gives ok (p >>= f) (ts ++ us) rest b := by
  cases ok with
  | true => exact .bind ts hp hf
  | false => exact hp.fail f b

/-- A step after which nothing is taken. -/
theorem Gives.done (hp : Gives ok p ts rest a) (hf : Gives true (f a) [] rest b) :
    Gives ok (p >>= f) ts rest b := by
  have h : Gives ok (p >>= f) (ts ++ []) rest b := hp.last hf
  rwa [List.append_nil] at h

theorem gives_ahead {question : List TokenTree → Bool} {answer : Bool}
    (h : question rest = answer) : Gives true (ahead question) [] rest answer := by
  subst h
  exact fun _ => ⟨_, rfl⟩

theorem Gives.ifNot {q : Parse α} {question : List TokenTree → Bool}
    (h : question (us ++ rest) = false) (hq : Gives ok q us rest a) :
    Gives ok (ahead question >>= fun answer => if answer = true then p else q) us rest a :=
  .then (gives_ahead h) hq

/-- A condition that does not hold. -/
theorem Gives.otherwise {q : Parse α} (h : Gives ok q us rest a) :
    Gives ok (if false = true then p else q) us rest a := h

/-- What is taken is captured, and not counted. -/
theorem Gives.capture (hp : Gives true p ts rest a) :
    ∃ written, Gives true (capture p) ts rest (a, written) := by
  obtain ⟨written, hw⟩ := hp []
  refine ⟨written.reverse, fun taken => ⟨taken, ?_⟩⟩
  have hrun : (Parse.capture p).run ⟨ts ++ rest, taken, false⟩ =
      (p.run ⟨ts ++ rest, [], false⟩).map fun r =>
        ((r.1, r.2.taken.reverse), { r.2 with taken := taken }) := rfl
  rw [hrun, hw]
  rfl

/-- All of the tokens are given, or there is no answer. -/
theorem Gives.runAll (h : Gives ok p ts [] a) : runAll p ts = if ok then some a else none := by
  obtain ⟨taken, hp⟩ := h []
  rw [List.append_nil] at hp
  unfold Parse.runAll
  rw [hp]
  cases ok <;> rfl

theorem Gives.isSome_runAll (h : Gives ok p ts [] a) : (Parse.runAll p ts).isSome = ok := by
  rw [h.runAll]
  cases ok <;> rfl

/-! ## Groups -/

theorem run_group (d : Delimiter) (p : Parse α) (ts rest taken : List TokenTree) :
    (group d p).run ⟨.group d ts :: rest, taken, false⟩ =
      (p.run { rest := ts }).map fun r =>
        (r.1, ⟨rest, .group d r.2.taken.reverse :: taken, r.2.leftover || !r.2.rest.isEmpty⟩) := by
  simp only [group, if_true, Bool.false_or]

theorem Gives.group (d : Delimiter) (h : Gives ok p ts [] a) :
    Gives ok (group d p) [.group d ts] rest a := by
  intro taken
  obtain ⟨taken', hp⟩ := h []
  rw [List.append_nil] at hp
  refine ⟨.group d taken'.reverse :: taken, ?_⟩
  rw [List.singleton_append, run_group, hp]
  cases ok <;> rfl

/-! ## Repetition -/

/-- Each of the parts gives something, whatever stands behind it. -/
def GivesEach (p : Parse α) (parts : List (Bool × List TokenTree)) : Prop :=
  ∀ part ∈ parts, part.2 ≠ [] ∧ ∀ rest, ∃ a, Gives part.1 p part.2 rest a

theorem GivesEach.manyUpTo {parts : List (Bool × List TokenTree)} (h : GivesEach p parts) {n : Nat}
    (hn : parts.length < n) :
    ∃ as, Gives (parts.all Prod.fst) (manyUpTo p n) (parts.flatMap Prod.snd) [] as := by
  induction parts generalizing n with
  | nil =>
    obtain ⟨n, rfl⟩ := Nat.exists_eq_succ_of_ne_zero (Nat.ne_of_gt hn)
    exact ⟨[], fun _ => ⟨_, rfl⟩⟩
  | cons part parts ih =>
    obtain ⟨n, rfl⟩ := Nat.exists_eq_succ_of_ne_zero (by omega : n ≠ 0)
    obtain ⟨hne, hpart⟩ := h part List.mem_cons_self
    obtain ⟨a, ha⟩ := hpart (parts.flatMap Prod.snd ++ [])
    obtain ⟨as, has⟩ := ih (fun q hq => h q (List.mem_cons_of_mem _ hq)) (n := n)
      (by simpa using hn)
    have hmore : Gives true atEnd [] (part.2 ++ (parts.flatMap Prod.snd ++ [])) false :=
      gives_ahead (by simp [hne])
    refine ⟨a :: as, ?_⟩
    rw [Parse.manyUpTo, List.flatMap_cons, List.all_cons]
    refine .then (by rwa [List.append_assoc]) ?_
    cases hok : part.1 with
    | true =>
      rw [hok] at ha
      exact .bind _ ha (has.done fun _ => ⟨_, rfl⟩)
    | false =>
      rw [hok] at ha
      exact ha.fail _ _

theorem GivesEach.length_le {parts : List (Bool × List TokenTree)} (h : GivesEach p parts) :
    parts.length ≤ (parts.flatMap Prod.snd).length := by
  induction parts with
  | nil => exact Nat.zero_le _
  | cons part parts ih =>
    have hpos := List.length_pos_iff.2 (h part List.mem_cons_self).1
    have := ih fun q hq => h q (List.mem_cons_of_mem _ hq)
    simp only [List.length_cons, List.flatMap_cons, List.length_append]
    omega

/-- Parts in a row are all given, or one of them is not. -/
theorem GivesEach.many {parts : List (Bool × List TokenTree)} (h : GivesEach p parts) :
    ∃ as, Gives (parts.all Prod.fst) (many p) (parts.flatMap Prod.snd) [] as := by
  have hlen : parts.length < (parts.flatMap Prod.snd ++ []).length + 1 := by
    rw [List.append_nil]
    exact Nat.lt_add_one_of_le h.length_le
  obtain ⟨as, has⟩ := h.manyUpTo hlen
  exact ⟨as, has⟩

/-! ## Normal forms -/

theorem run_asWrittenIf (p : Parse (α × Bool)) (c : Cursor) :
    (asWrittenIf p).run c = (p.run c).map fun r =>
      (r.1.1, if r.1.2 then
        { r.2 with taken := (c.rest.take (c.rest.length - r.2.rest.length)).reverse ++ c.taken }
        else r.2) := rfl

theorem Gives.asWrittenIf {p : Parse (α × Bool)} (h : Gives ok p ts rest (a, false)) :
    Gives ok (asWrittenIf p) ts rest a := by
  intro taken
  obtain ⟨taken', hp⟩ := h taken
  refine ⟨taken', ?_⟩
  rw [run_asWrittenIf, hp]
  cases ok <;> rfl

end EndpointStubs.Syntax.Parse
