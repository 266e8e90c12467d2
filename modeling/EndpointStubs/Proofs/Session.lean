import EndpointStubs.Session

/-!
# Running sessions

What each step of a session does to the world that it is run on.

    (s >>= f).runOn w = (f a).runOn w'       if s.runOn w = (.ok a, w')
    (s >>= f).runOn w = (.error e, w')       if s.runOn w = (.error e, w')
-/

namespace EndpointStubs.Session

variable {ε ε' α β : Type} {w : World}

@[simp] theorem runOn_pure (a : α) : (pure a : Session ε α).runOn w = (.ok a, w) := rfl

@[simp] theorem runOn_throw (e : ε) : (throw e : Session ε α).runOn w = (.error e, w) := rfl

/-- The second part of a session starts in the world that the first one has left. -/
theorem runOn_bind (s : Session ε α) (f : α → Session ε β) :
    (s >>= f).runOn w =
      match s.runOn w with
      | (.ok a, w') => (f a).runOn w'
      | (.error e, w') => (.error e, w') := by
  unfold runOn
  simp only [bind, ExceptT.bind, ExceptT.run, ExceptT.mk, StateT.run, StateT.bind]
  rcases s w with ⟨a | a, w'⟩ <;> rfl

theorem runOn_discard (s : Session ε α) :
    (discard s : Session ε PUnit).runOn w =
      match s.runOn w with
      | (.ok _, w') => (.ok ⟨⟩, w')
      | (.error e, w') => (.error e, w') := by
  unfold runOn
  simp only [discard, Functor.discard, Functor.mapConst, ExceptT.map, ExceptT.run, ExceptT.mk,
    StateT.run, bind, StateT.bind, Function.comp]
  rcases s w with ⟨a | a, w'⟩ <;> rfl

/-- A session that returns a value leaves some world. -/
theorem exists_runOn_of_toOption {s : Session ε α} {a : α}
    (h : (s.runOn w).1.toOption = some a) : ∃ w', s.runOn w = (.ok a, w') := by
  generalize s.runOn w = res at h
  obtain ⟨e | b, w'⟩ := res
  · cases h
  · obtain rfl := Option.some.inj h
    exact ⟨w', rfl⟩

@[simp] theorem runOn_modify (f : World → World) :
    (modify f : Session ε Unit).runOn w = (.ok (), f w) := rfl

@[simp] theorem runOn_tree : (tree : Session ε FileTree).runOn w = (.ok w.tree, w) := rfl

@[simp] theorem runOn_report (e : Event) :
    (report e : Session ε Unit).runOn w = (.ok (), { w with events := w.events ++ [e] }) := rfl

@[simp] theorem runOn_reportAll (es : List Event) :
    (reportAll es : Session ε Unit).runOn w = (.ok (), { w with events := w.events ++ es }) := rfl

theorem runOn_ofExcept (cause : ε' → ε) (x : Except ε' α) :
    (ofExcept cause x).runOn w =
      match x with
      | .ok a => (.ok a, w)
      | .error e => (.error (cause e), w) := by
  cases x <;> rfl

theorem runOn_change (cause : Fault → ε) (step : FileTree → Except Fault FileTree) :
    (change cause step).runOn w =
      match step w.tree with
      | .ok t => (.ok (), { w with tree := t })
      | .error f => (.error (cause f), w) := by
  unfold change
  rw [runOn_bind, runOn_tree]
  simp only
  cases step w.tree <;> rfl

theorem runOn_ask (cause : Fault → ε) (question : FileTree → Except Fault α) :
    (ask cause question).runOn w =
      match question w.tree with
      | .ok a => (.ok a, w)
      | .error f => (.error (cause f), w) := by
  unfold ask
  rw [runOn_bind, runOn_tree]
  simp only
  cases question w.tree <;> rfl

theorem runOn_mapError (cause : ε' → ε) (s : Session ε' α) :
    (mapError cause s).runOn w =
      match s.runOn w with
      | (.ok a, w') => (.ok a, w')
      | (.error e, w') => (.error (cause e), w') := by
  unfold mapError runOn
  simp only [ExceptT.run, ExceptT.mk, StateT.run, bind, StateT.bind]
  rcases s w with ⟨a | a, w'⟩ <;> rfl

/-- A failure is handled in the world that it has left. -/
theorem runOn_tryCatch (s : Session ε α) (h : ε → Session ε α) :
    (tryCatch s h).runOn w =
      match s.runOn w with
      | (.ok a, w') => (.ok a, w')
      | (.error e, w') => (h e).runOn w' := by
  unfold runOn
  simp only [tryCatch, tryCatchThe, MonadExceptOf.tryCatch, ExceptT.tryCatch, bind, ExceptT.run,
    ExceptT.mk, StateT.run, StateT.bind]
  rcases s w with ⟨a | a, w'⟩ <;> rfl

/-- A sequence succeeds if both parts do. -/
theorem runOn_bind_eq_ok_iff {s : Session ε α} {f : α → Session ε β} {b : β} {w'' : World} :
    (s >>= f).runOn w = (.ok b, w'') ↔
      ∃ a w', s.runOn w = (.ok a, w') ∧ (f a).runOn w' = (.ok b, w'') := by
  rw [runOn_bind]
  rcases s.runOn w with ⟨e | a, w'⟩
  · simp
  · simp only [Prod.mk.injEq, Except.ok.injEq]
    exact ⟨fun h => ⟨a, w', ⟨rfl, rfl⟩, h⟩, fun ⟨_, _, ⟨rfl, rfl⟩, h⟩ => h⟩

/-- A sequence fails in its first part, or in the second one after a success. -/
theorem runOn_bind_eq_error_iff {s : Session ε α} {f : α → Session ε β} {e : ε} {w'' : World} :
    (s >>= f).runOn w = (.error e, w'') ↔ s.runOn w = (.error e, w'') ∨
      ∃ a w', s.runOn w = (.ok a, w') ∧ (f a).runOn w' = (.error e, w'') := by
  rw [runOn_bind]
  rcases s.runOn w with ⟨e' | a, w'⟩
  · simp
  · simp only [Prod.mk.injEq, reduceCtorEq, false_and, false_or, Except.ok.injEq]
    exact ⟨fun h => ⟨a, w', ⟨rfl, rfl⟩, h⟩, fun ⟨_, _, ⟨rfl, rfl⟩, h⟩ => h⟩

theorem runOn_mapError_eq_ok_iff {s : Session ε' α} {cause : ε' → ε} {a : α} {w' : World} :
    (mapError cause s).runOn w = (.ok a, w') ↔ s.runOn w = (.ok a, w') := by
  rw [runOn_mapError]
  rcases s.runOn w with ⟨e | b, w₁⟩ <;> simp

/-- Each of a list of sessions has a result. -/
theorem exists_runOn_of_mem {f : α → Session ε β} {as : List α} {bs : List β} {w' : World}
    (h : (as.mapM f).runOn w = (.ok bs, w')) {a : α} (ha : a ∈ as) :
    ∃ b v v', (f a).runOn v = (.ok b, v') := by
  induction as generalizing w w' bs with
  | nil => cases ha
  | cons c as ih =>
    rw [List.mapM_cons] at h
    obtain ⟨b, v, hb, h⟩ := runOn_bind_eq_ok_iff.1 h
    obtain ⟨bs', v', hbs, -⟩ := runOn_bind_eq_ok_iff.1 h
    rcases List.mem_cons.1 ha with rfl | ha
    · exact ⟨b, w, v, hb⟩
    · exact ih hbs ha

/-- Sessions in a row stop at the first one that fails, after all before it. -/
theorem exists_of_runOn_forM_eq_error {f : α → Session ε Unit} {as : List α} {e : ε}
    (h : (as.forM f).runOn w = (.error e, w')) :
    ∃ done a rest v, as = done ++ a :: rest ∧ (done.forM f).runOn w = (.ok (), v) ∧
      (f a).runOn v = (.error e, w') := by
  induction as generalizing w with
  | nil => cases h
  | cons a as ih =>
    have hcons (bs : List α) : (a :: bs).forM f = f a >>= fun _ => bs.forM f := rfl
    rw [hcons] at h
    rcases runOn_bind_eq_error_iff.1 h with hone | ⟨_, v, hone, h⟩
    · exact ⟨[], a, as, w, rfl, rfl, hone⟩
    · obtain ⟨done, b, rest, u, rfl, hdone, hb⟩ := ih h
      refine ⟨a :: done, b, rest, u, rfl, ?_, hb⟩
      rw [hcons]
      exact runOn_bind_eq_ok_iff.2 ⟨(), v, hone, hdone⟩

/-! ## Sessions that only read -/

/-- The session leaves the tree as it is. -/
def KeepsTree (s : Session ε α) : Prop := ∀ w, (s.runOn w).2.tree = w.tree

theorem keepsTree_pure (a : α) : KeepsTree (pure a : Session ε α) := fun _ => rfl

theorem keepsTree_throw (e : ε) : KeepsTree (throw e : Session ε α) := fun _ => rfl

theorem keepsTree_tree : KeepsTree (tree : Session ε FileTree) := fun _ => rfl

theorem keepsTree_report (e : Event) : KeepsTree (report e : Session ε Unit) := fun _ => rfl

theorem keepsTree_ask (cause : Fault → ε) (question : FileTree → Except Fault α) :
    KeepsTree (ask cause question) := by
  intro w
  rw [runOn_ask]
  cases question w.tree <;> rfl

theorem KeepsTree.bind {s : Session ε α} {f : α → Session ε β} (hs : KeepsTree s)
    (hf : ∀ a, KeepsTree (f a)) : KeepsTree (s >>= f) := by
  intro w
  have h := hs w
  rw [runOn_bind]
  generalize s.runOn w = r at h
  obtain ⟨e | a, w'⟩ := r
  · exact h
  · exact (hf a w').trans h

theorem KeepsTree.mapError {s : Session ε' α} (hs : KeepsTree s) (cause : ε' → ε) :
    KeepsTree (mapError cause s) := by
  intro w
  have h := hs w
  rw [runOn_mapError]
  generalize s.runOn w = r at h
  obtain ⟨e | a, w'⟩ := r <;> exact h

theorem keepsTree_foldlM {f : β → α → Session ε β} (hf : ∀ b a, KeepsTree (f b a)) (as : List α)
    (b : β) : KeepsTree (as.foldlM f b) := by
  induction as generalizing b with
  | nil => exact keepsTree_pure b
  | cons a as ih =>
    rw [List.foldlM_cons]
    exact (hf b a).bind ih

/-- The session only reads: what it comes to is `g` of the tree, which it leaves as it is. -/
structure Reads (s : Session ε α) (g : FileTree → Except ε α) : Prop where
  result : ∀ w, (s.runOn w).1 = g w.tree
  keepsTree : KeepsTree s

theorem reads_pure (a : α) : Reads (pure a : Session ε α) fun _ => .ok a :=
  ⟨fun _ => rfl, keepsTree_pure a⟩

theorem reads_throw (e : ε) : Reads (throw e : Session ε α) fun _ => .error e :=
  ⟨fun _ => rfl, keepsTree_throw e⟩

theorem reads_tree_bind {f : FileTree → Session ε α} {h : FileTree → FileTree → Except ε α}
    (hf : ∀ t, Reads (f t) (h t)) : Reads (tree >>= f) fun t => h t t := by
  refine ⟨fun w => ?_, keepsTree_tree.bind fun t => (hf t).keepsTree⟩
  rw [runOn_bind, runOn_tree]
  exact (hf w.tree).result w

theorem reads_report (e : Event) : Reads (report e : Session ε Unit) fun _ => .ok () :=
  ⟨fun _ => rfl, keepsTree_report e⟩

theorem reads_ofExcept (cause : ε' → ε) (x : Except ε' α) :
    Reads (ofExcept cause x) fun _ => x.mapError cause := by
  cases x with
  | ok a => exact reads_pure a
  | error e => exact reads_throw (cause e)

variable {s : Session ε α} {g : FileTree → Except ε α}

/-- What follows a session that reads is run with its result, in the same tree. -/
theorem Reads.runOn_bind_eq {f : α → Session ε β} (hs : Reads s g) (w : World) :
    ∃ w', w'.tree = w.tree ∧ (s >>= f).runOn w =
      match g w.tree with
      | .ok a => (f a).runOn w'
      | .error e => (.error e, w') := by
  have hresult := hs.result w
  have htree := hs.keepsTree w
  rw [runOn_bind, ← hresult]
  generalize s.runOn w = r at htree
  obtain ⟨e | a, w'⟩ := r
  · exact ⟨w', htree, rfl⟩
  · exact ⟨w', htree, rfl⟩

theorem Reads.bind {f : α → Session ε β} {h : α → FileTree → Except ε β} (hs : Reads s g)
    (hf : ∀ a, Reads (f a) (h a)) : Reads (s >>= f) fun t => g t >>= fun a => h a t := by
  refine ⟨fun w => ?_, hs.keepsTree.bind fun a => (hf a).keepsTree⟩
  obtain ⟨w', htree, hrun⟩ := hs.runOn_bind_eq (f := f) w
  rw [hrun]
  cases g w.tree with
  | error e => rfl
  | ok a => exact htree ▸ (hf a).result w'

theorem Reads.mapError {s : Session ε' α} {g : FileTree → Except ε' α} (hs : Reads s g)
    (cause : ε' → ε) : Reads (mapError cause s) fun t => (g t).mapError cause := by
  refine ⟨fun w => ?_, hs.keepsTree.mapError cause⟩
  rw [runOn_mapError, ← hs.result w]
  rcases s.runOn w with ⟨e | a, w'⟩ <;> rfl

/-- Sessions that only read, one after the other, only read. -/
theorem reads_mapM {f : α → Session ε β} {h : α → FileTree → Except ε β}
    (hf : ∀ a, Reads (f a) (h a)) (as : List α) :
    Reads (as.mapM f) fun t => as.mapM fun a => h a t := by
  induction as with
  | nil => exact reads_pure []
  | cons a as ih =>
    simp only [List.mapM_cons]
    exact (hf a).bind fun b => ih.bind fun bs => reads_pure (b :: bs)

theorem Reads.congr {g' : FileTree → Except ε α} (hs : Reads s g) (h : ∀ t, g t = g' t) :
    Reads s g' :=
  ⟨fun w => (hs.result w).trans (h w.tree), hs.keepsTree⟩

/-! ## Sessions that preserve a property of the world -/

/-- What holds before the session holds afterwards, however the session ends. -/
def Preserves (Q : World → Prop) (s : Session ε α) : Prop := ∀ w, Q w → Q (s.runOn w).2

variable {Q : World → Prop}

theorem preserves_pure (a : α) : Preserves Q (pure a : Session ε α) := fun _ hw => hw

theorem preserves_throw (e : ε) : Preserves Q (throw e : Session ε α) := fun _ hw => hw

theorem preserves_report {e : Event} (h : ∀ w, Q w → Q { w with events := w.events ++ [e] }) :
    Preserves Q (report e : Session ε Unit) := h

theorem preserves_ofExcept (cause : ε' → ε) (x : Except ε' α) : Preserves Q (ofExcept cause x) := by
  intro w hw
  rw [runOn_ofExcept]
  cases x <;> exact hw

theorem preserves_change {cause : Fault → ε} {step : FileTree → Except Fault FileTree}
    (h : ∀ w u, Q w → step w.tree = .ok u → Q { w with tree := u }) :
    Preserves Q (change cause step) := by
  intro w hw
  rw [runOn_change]
  cases hu : step w.tree with
  | ok u => exact h w u hw hu
  | error f => exact hw

/-- What both parts of a session preserve, the whole preserves. -/
theorem Preserves.bind {s : Session ε α} {f : α → Session ε β} (hs : Preserves Q s)
    (hf : ∀ a, Preserves Q (f a)) : Preserves Q (s >>= f) := by
  intro w hw
  have h := hs w hw
  rw [runOn_bind]
  generalize s.runOn w = r at h
  obtain ⟨e | a, w'⟩ := r
  · exact h
  · exact hf a w' h

theorem Preserves.mapError {s : Session ε' α} (hs : Preserves Q s) (cause : ε' → ε) :
    Preserves Q (mapError cause s) := by
  intro w hw
  have h := hs w hw
  rw [runOn_mapError]
  generalize s.runOn w = r at h
  obtain ⟨e | a, w'⟩ := r <;> exact h

/-- What a session and its handlers preserve is preserved with failures handled. -/
theorem Preserves.tryCatch {s : Session ε α} {handle : ε → Session ε α} (hs : Preserves Q s)
    (hh : ∀ e, Preserves Q (handle e)) : Preserves Q (tryCatch s handle) := by
  intro w hw
  have h := hs w hw
  rw [runOn_tryCatch]
  generalize s.runOn w = r at h
  obtain ⟨e | a, w'⟩ := r
  · exact hh e w' h
  · exact h

theorem preserves_mapM {f : α → Session ε β} (hf : ∀ a, Preserves Q (f a)) (as : List α) :
    Preserves Q (as.mapM f) := by
  induction as with
  | nil => exact preserves_pure []
  | cons a as ih =>
    rw [List.mapM_cons]
    exact (hf a).bind fun b => ih.bind fun bs => preserves_pure (b :: bs)

/-! ## Sessions that keep a property of the tree -/

/-- What holds of the tree before the session holds of it afterwards, however the session ends. -/
def Keeps (P : FileTree → Prop) (s : Session ε α) : Prop :=
  ∀ w, P w.tree → P (s.runOn w).2.tree

variable {P : FileTree → Prop}

theorem KeepsTree.keeps {s : Session ε α} (hs : KeepsTree s) : Keeps P s :=
  fun w hw => (hs w).symm ▸ hw

theorem keeps_pure (a : α) : Keeps P (pure a : Session ε α) := preserves_pure a

theorem keeps_ofExcept (cause : ε' → ε) (x : Except ε' α) : Keeps P (ofExcept cause x) :=
  preserves_ofExcept cause x

theorem Keeps.bind {s : Session ε α} {f : α → Session ε β} (hs : Keeps P s)
    (hf : ∀ a, Keeps P (f a)) : Keeps P (s >>= f) :=
  Preserves.bind hs hf

theorem Keeps.mapError {s : Session ε' α} (hs : Keeps P s) (cause : ε' → ε) :
    Keeps P (mapError cause s) :=
  Preserves.mapError hs cause

theorem Keeps.tryCatch {s : Session ε α} {handle : ε → Session ε α} (hs : Keeps P s)
    (hh : ∀ e, Keeps P (handle e)) : Keeps P (tryCatch s handle) :=
  Preserves.tryCatch hs hh

theorem keeps_mapM {f : α → Session ε β} (hf : ∀ a, Keeps P (f a)) (as : List α) :
    Keeps P (as.mapM f) :=
  preserves_mapM hf as

/-! ## Sessions that read two trees alike -/

/-- What `s` reads with success from `t`, `s'` reads from `x`, with the same result. -/
def Echoes (t x : FileTree) (s s' : Session ε α) : Prop :=
  ∀ w w' a, w.tree = t → s.runOn w = (.ok a, w') →
    w'.tree = t ∧ ∀ y : World, y.tree = x → ∃ y', s'.runOn y = (.ok a, y') ∧ y'.tree = x

variable {t x : FileTree}

theorem echoes_pure (a : α) : Echoes t x (pure a : Session ε α) (pure a) := by
  rintro w w' b rfl h
  obtain ⟨hb, rfl⟩ := Prod.mk.inj h
  exact ⟨rfl, fun y hy => ⟨y, by rw [← hb]; rfl, hy⟩⟩

theorem echoes_throw (e : ε) (s' : Session ε α) : Echoes t x (throw e) s' :=
  fun _ _ _ _ h => by cases h

theorem echoes_report (e e' : Event) :
    Echoes t x (report e : Session ε Unit) (report e') := by
  rintro w w' a rfl h
  obtain ⟨-, rfl⟩ := Prod.mk.inj h
  exact ⟨rfl, fun y hy => ⟨_, rfl, hy⟩⟩

theorem echoes_reportAll (es es' : List Event) :
    Echoes t x (reportAll es : Session ε Unit) (reportAll es') := by
  rintro w w' a rfl h
  obtain ⟨-, rfl⟩ := Prod.mk.inj h
  exact ⟨rfl, fun y hy => ⟨_, rfl, hy⟩⟩

theorem echoes_ofExcept {cause : ε' → ε} {r r' : Except ε' α} (h : ∀ a, r = .ok a → r' = .ok a) :
    Echoes t x (ofExcept cause r) (ofExcept cause r') := by
  cases r with
  | ok a =>
    rw [h a rfl]
    exact echoes_pure a
  | error e => exact echoes_throw (cause e) _

theorem echoes_tree {f f' : FileTree → Session ε α} (h : Echoes t x (f t) (f' x)) :
    Echoes t x (tree >>= f) (tree >>= f') := by
  intro w w' a hw hr
  rw [runOn_bind, runOn_tree, hw] at hr
  obtain ⟨hw', hx⟩ := h w w' a hw hr
  refine ⟨hw', fun y hy => ?_⟩
  obtain ⟨y', hy', hy''⟩ := hx y hy
  exact ⟨y', by rw [runOn_bind, runOn_tree, hy]; exact hy', hy''⟩

theorem echoes_ask {cause : Fault → ε} {question : FileTree → Except Fault α}
    (h : ∀ a, question t = .ok a → question x = .ok a) :
    Echoes t x (ask cause question) (ask cause question) := by
  unfold ask
  refine echoes_tree ?_
  cases hq : question t with
  | ok a =>
    rw [h a hq]
    exact echoes_pure a
  | error f => exact echoes_throw _ _

/-- Sessions echo each other if their parts do. -/
theorem Echoes.bind {s s' : Session ε α} {f f' : α → Session ε β} (hs : Echoes t x s s')
    (hf : ∀ a, Echoes t x (f a) (f' a)) : Echoes t x (s >>= f) (s' >>= f') := by
  intro w w' b hw h
  obtain ⟨a, w₁, hr, h⟩ := runOn_bind_eq_ok_iff.1 h
  obtain ⟨hw₁, hx⟩ := hs w w₁ a hw hr
  obtain ⟨hw', hx'⟩ := hf a w₁ w' b hw₁ h
  refine ⟨hw', fun y hy => ?_⟩
  obtain ⟨y₁, hy₁, hyx₁⟩ := hx y hy
  obtain ⟨y', hy', hyx'⟩ := hx' y₁ hyx₁
  exact ⟨y', runOn_bind_eq_ok_iff.2 ⟨a, y₁, hy₁, hy'⟩, hyx'⟩

theorem Echoes.mapError {s s' : Session ε' α} (hs : Echoes t x s s') (cause : ε' → ε) :
    Echoes t x (mapError cause s) (mapError cause s') := by
  intro w w' a hw h
  obtain ⟨hw', hx⟩ := hs w w' a hw (runOn_mapError_eq_ok_iff.1 h)
  refine ⟨hw', fun y hy => ?_⟩
  obtain ⟨y', hy', hyx'⟩ := hx y hy
  exact ⟨y', runOn_mapError_eq_ok_iff.2 hy', hyx'⟩

theorem echoes_mapM {f f' : α → Session ε β} {as : List α}
    (hf : ∀ a ∈ as, Echoes t x (f a) (f' a)) : Echoes t x (as.mapM f) (as.mapM f') := by
  induction as with
  | nil => exact echoes_pure []
  | cons a as ih =>
    obtain ⟨hhead, htail⟩ := List.forall_mem_cons.1 hf
    rw [List.mapM_cons, List.mapM_cons]
    exact hhead.bind fun b => (ih htail).bind fun bs => echoes_pure (b :: bs)

theorem echoes_foldlM {f f' : β → α → Session ε β} (hf : ∀ b a, Echoes t x (f b a) (f' b a))
    (as : List α) (b : β) : Echoes t x (as.foldlM f b) (as.foldlM f' b) := by
  induction as generalizing b with
  | nil => exact echoes_pure b
  | cons a as ih =>
    rw [List.foldlM_cons, List.foldlM_cons]
    exact (hf b a).bind ih

end EndpointStubs.Session
