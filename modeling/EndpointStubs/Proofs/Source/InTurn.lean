import Mathlib.Data.List.Forall2

/-!
# Lists that are made in turn

Parts of a list are made one after the other, until one fails. All of them succeed with their
parts in a row, or the first failure is the result.

    inTurn f as = .ok bs ↔ bs = bss.flatten, with f a = .ok b for each a and its b in bss
    inTurn f as = .error e ↔ as = before ++ a :: after, all of before succeed, f a = .error e
-/

namespace EndpointStubs.Source

variable {α α' β ε : Type}

/-- What is made of each element, one after the other. -/
def inTurn (f : α → Except ε (List β)) (as : List α) : Except ε (List β) := do
  return (← as.mapM f).flatten

variable {f : α → Except ε (List β)} {g : α' → Except ε (List β)}

@[simp] theorem inTurn_nil : inTurn f [] = .ok [] := rfl

theorem inTurn_cons (a : α) (as : List α) :
    inTurn f (a :: as) = do return (← f a) ++ (← inTurn f as) := by
  simp [inTurn, List.mapM_cons]

theorem inTurn_append (as bs : List α) :
    inTurn f (as ++ bs) = do return (← inTurn f as) ++ (← inTurn f bs) := by
  simp [inTurn, List.mapM_append]

theorem inTurn_cons_of_error {a : α} {e : ε} (h : f a = .error e) (as : List α) :
    inTurn f (a :: as) = .error e := by
  rw [inTurn_cons, h]
  rfl

theorem inTurn_cons_of_ok {a : α} {bs : List β} (h : f a = .ok bs) (as : List α) :
    inTurn f (a :: as) = (inTurn f as).map (bs ++ ·) := by
  rw [inTurn_cons, h]
  cases inTurn f as <;> rfl

theorem inTurn_singleton (a : α) : inTurn f [a] = f a := by
  cases h : f a with
  | error e => exact inTurn_cons_of_error h []
  | ok bs =>
    rw [inTurn_cons_of_ok h, inTurn_nil]
    exact congrArg Except.ok (List.append_nil bs)

theorem inTurn_map (h : α' → α) (as : List α') :
    inTurn f (as.map h) = inTurn (fun a => f (h a)) as := by
  induction as with
  | nil => rfl
  | cons a as ih => rw [List.map_cons, inTurn_cons, inTurn_cons, ih]

/-- Elements that give nothing can be left out. -/
theorem inTurn_filter {q : α → Bool} {as : List α} (h : ∀ a ∈ as, q a = false → f a = .ok []) :
    inTurn f (as.filter q) = inTurn f as := by
  induction as with
  | nil => rfl
  | cons a as ih =>
    obtain ⟨hhead, htail⟩ := List.forall_mem_cons.1 h
    cases hq : q a with
    | true => rw [List.filter_cons_of_pos hq, inTurn_cons, inTurn_cons, ih htail]
    | false =>
      rw [List.filter_cons_of_neg (by simp [hq]), ih htail, inTurn_cons_of_ok (hhead hq)]
      cases inTurn f as <;> rfl

/-- Lists that are put together from parts give the same if their parts do. -/
theorem inTurn_flatMap {γ : Type} {u : γ → List α} {v : γ → List α'} {cs : List γ}
    (h : ∀ c ∈ cs, inTurn f (u c) = inTurn g (v c)) :
    inTurn f (cs.flatMap u) = inTurn g (cs.flatMap v) := by
  induction cs with
  | nil => rfl
  | cons c cs ih =>
    rw [List.flatMap_cons, List.flatMap_cons, inTurn_append, inTurn_append,
      h c List.mem_cons_self, ih fun d hd => h d (List.mem_cons_of_mem _ hd)]

/-- What is made of each element can be changed afterwards. -/
theorem mapM_map_ok {γ : Type} {h : α → Except ε β} (k : β → γ) (as : List α) :
    (as.mapM fun a => (h a).map k) = (as.mapM h).map (List.map k) := by
  induction as with
  | nil => rfl
  | cons a as ih =>
    rw [List.mapM_cons, List.mapM_cons, ih]
    cases h a with
    | error e => rfl
    | ok b => cases as.mapM h <;> rfl

/-! ## Success and failure -/

/-- Success, where a relation says when each part succeeds. -/
theorem inTurn_eq_ok_iff_of {R : α → List β → Prop} {as : List α}
    (hR : ∀ a ∈ as, ∀ b, f a = .ok b ↔ R a b) {bs : List β} :
    inTurn f as = .ok bs ↔ ∃ bss, List.Forall₂ R as bss ∧ bs = bss.flatten := by
  induction as generalizing bs with
  | nil => simp [eq_comm]
  | cons a as ih =>
    obtain ⟨hhead, htail⟩ := List.forall_mem_cons.1 hR
    simp only [List.forall₂_cons_left_iff]
    constructor
    · intro h
      cases ha : f a with
      | error e => rw [inTurn_cons_of_error ha] at h; cases h
      | ok b =>
        cases has : inTurn f as with
        | error e => rw [inTurn_cons_of_ok ha, has] at h; cases h
        | ok cs =>
          rw [inTurn_cons_of_ok ha, has] at h
          obtain ⟨bss, hbss, rfl⟩ := (ih htail).1 has
          exact ⟨b :: bss, ⟨b, bss, (hhead b).1 ha, hbss, rfl⟩, (Except.ok.inj h).symm⟩
    · rintro ⟨_, ⟨b, bss, ha, hbss, rfl⟩, rfl⟩
      rw [inTurn_cons_of_ok ((hhead b).2 ha), (ih htail).2 ⟨bss, hbss, rfl⟩]
      rfl

/-- All succeed, and their results stand one after the other. -/
theorem inTurn_eq_ok_iff {as : List α} {bs : List β} :
    inTurn f as = .ok bs ↔
      ∃ bss, List.Forall₂ (fun a b => f a = .ok b) as bss ∧ bs = bss.flatten :=
  inTurn_eq_ok_iff_of fun _ _ _ => .rfl

/-- The first failure is the one that is reported. -/
theorem inTurn_eq_error_iff {as : List α} {e : ε} :
    inTurn f as = .error e ↔ ∃ before a after, as = before ++ a :: after ∧
      (∀ b ∈ before, ∃ bs, f b = .ok bs) ∧ f a = .error e := by
  constructor
  · intro h
    induction as with
    | nil => cases h
    | cons a as ih =>
      cases ha : f a with
      | error e' =>
        rw [inTurn_cons_of_error ha] at h
        obtain rfl := Except.error.inj h
        exact ⟨[], a, as, rfl, nofun, ha⟩
      | ok bs =>
        rw [inTurn_cons_of_ok ha] at h
        cases has : inTurn f as with
        | ok cs => rw [has] at h; cases h
        | error e' =>
          rw [has] at h
          obtain rfl := Except.error.inj h
          obtain ⟨before, c, after, rfl, hb, hc⟩ := ih has
          exact ⟨a :: before, c, after, rfl, List.forall_mem_cons.2 ⟨⟨bs, ha⟩, hb⟩, hc⟩
  · rintro ⟨before, a, after, rfl, hb, ha⟩
    induction before with
    | nil => exact inTurn_cons_of_error ha after
    | cons b before ih =>
      obtain ⟨⟨bs, hbs⟩, hrest⟩ := List.forall_mem_cons.1 hb
      rw [List.cons_append, inTurn_cons_of_ok hbs, ih hrest]
      rfl

theorem exists_inTurn_eq_error_iff {as : List α} :
    (∃ e, inTurn f as = .error e) ↔ ∃ a ∈ as, ∃ e, f a = .error e := by
  induction as with
  | nil => simp
  | cons a as ih =>
    rw [List.exists_mem_cons_iff, ← ih]
    cases ha : f a with
    | error e => simp [inTurn_cons_of_error ha]
    | ok bs =>
      rw [inTurn_cons_of_ok ha]
      cases inTurn f as <;> simp [Except.map]

/-- Failure, where a relation says when each part succeeds. -/
theorem inTurn_eq_error_iff_of {R : α → List β → Prop} {as : List α}
    (hR : ∀ a ∈ as, ∀ b, f a = .ok b ↔ R a b) {e : ε} :
    inTurn f as = .error e ↔ ∃ before a after, as = before ++ a :: after ∧
      (∀ b ∈ before, ∃ bs, R b bs) ∧ f a = .error e := by
  rw [inTurn_eq_error_iff]
  refine exists₃_congr fun before a after => and_congr_right fun has => and_congr_left' ?_
  refine forall₂_congr fun b hb => exists_congr (hR b ?_)
  rw [has]
  exact List.mem_append_left _ hb

theorem map_eq_ok_iff {α β : Type} {g : α → β} {x : Except ε α} {b : β} :
    x.map g = .ok b ↔ ∃ a, x = .ok a ∧ b = g a := by
  cases x <;> simp [Except.map, eq_comm]

theorem map_eq_error_iff {α β : Type} {g : α → β} {x : Except ε α} {e : ε} :
    x.map g = .error e ↔ x = .error e := by
  cases x <;> simp [Except.map]

theorem inTurn_append_eq_ok_iff {as bs : List α} {cs : List β} : inTurn f (as ++ bs) = .ok cs ↔
    ∃ xs ys, inTurn f as = .ok xs ∧ inTurn f bs = .ok ys ∧ cs = xs ++ ys := by
  rw [inTurn_append]
  cases inTurn f as with
  | error e => simp [bind, Except.bind]
  | ok xs => cases inTurn f bs <;> simp [bind, Except.bind, pure, Except.pure, eq_comm]

/-- What has succeeded succeeds in the same way wherever each part does. -/
theorem inTurn_eq_ok_of {g : α → Except ε (List β)} {as : List α}
    (hg : ∀ a ∈ as, ∀ b, f a = .ok b → g a = .ok b) {bs : List β} (h : inTurn f as = .ok bs) :
    inTurn g as = .ok bs := by
  obtain ⟨bss, hbss, rfl⟩ := inTurn_eq_ok_iff.1 h
  refine inTurn_eq_ok_iff.2 ⟨bss, ?_, rfl⟩
  clear h
  induction hbss with
  | nil => exact .nil
  | cons ha _ ih =>
    obtain ⟨hhead, htail⟩ := List.forall_mem_cons.1 hg
    exact .cons (hhead _ ha) (ih htail)

/-- Parts that are changed element by element change the whole list in the same way. -/
theorem inTurn_eq_ok_iff_map {g : α → Except ε (List β)} {k : β → β} {as : List α}
    (h : ∀ a ∈ as, ∀ b, f a = .ok b ↔ ∃ c, g a = .ok c ∧ b = c.map k) {bs : List β} :
    inTurn f as = .ok bs ↔ ∃ cs, inTurn g as = .ok cs ∧ bs = cs.map k := by
  induction as generalizing bs with
  | nil => simp [eq_comm]
  | cons a as ih =>
    obtain ⟨hhead, htail⟩ := List.forall_mem_cons.1 h
    cases hg : g a with
    | error e =>
      have hf : ∀ b, f a ≠ .ok b := by
        intro b hb
        obtain ⟨c, hc, -⟩ := (hhead b).1 hb
        rw [hg] at hc
        cases hc
      rw [inTurn_cons_of_error hg]
      cases hfa : f a with
      | error e' => simp [inTurn_cons_of_error hfa]
      | ok b => exact absurd hfa (hf b)
    | ok c =>
      have hf : f a = .ok (c.map k) := (hhead _).2 ⟨c, hg, rfl⟩
      simp only [inTurn_cons_of_ok hf, inTurn_cons_of_ok hg, map_eq_ok_iff, ih htail]
      constructor
      · rintro ⟨_, ⟨cs, hcs, rfl⟩, rfl⟩
        exact ⟨c ++ cs, ⟨cs, hcs, rfl⟩, List.map_append.symm⟩
      · rintro ⟨_, ⟨cs, hcs, rfl⟩, rfl⟩
        exact ⟨cs.map k, ⟨cs, hcs, rfl⟩, List.map_append⟩

/-- What comes out was made of an element. -/
theorem exists_of_inTurn_eq_ok {as : List α} {bs : List β} (h : inTurn f as = .ok bs) {b : β}
    (hb : b ∈ bs) : ∃ a ∈ as, ∃ cs, f a = .ok cs ∧ b ∈ cs := by
  obtain ⟨bss, hbss, rfl⟩ := inTurn_eq_ok_iff.1 h
  clear h
  induction hbss with
  | nil => cases hb
  | cons ha _ ih =>
    rcases List.mem_append.1 hb with hb | hb
    · exact ⟨_, List.mem_cons_self, _, ha, hb⟩
    · obtain ⟨c, hc, hrest⟩ := ih hb
      exact ⟨c, List.mem_cons_of_mem _ hc, hrest⟩

end EndpointStubs.Source
