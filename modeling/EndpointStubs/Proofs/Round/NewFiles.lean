import EndpointStubs.Proofs.Round.Reached

/-!
# The new files of a round

Whatever a round comes to, it leaves the first of its files, each with the whole text of its
artifact, and no others. What was there stays as it was, and a directory is only made on the way
to one of these files or to the one at which the round stopped.
-/

namespace EndpointStubs.Processor

variable {p : Processor} {m : EndpointModel} {t u : FileTree} {k : Nat}
  {result : Except ProcessError (List Artifact)}

/-- From `t` to `u` the first `k` files were made: they are the files that are new, each at a place
of its own and with the whole text of its artifact, and a directory that is new is on the way to
one of them or to the file after them. -/
structure Made (p : Processor) (m : EndpointModel) (t u : FileTree) (k : Nat) : Prop where
  le : k ≤ (p.files m).length
  file_iff : ∀ l, (t.get? l = none ∧ ∃ b, u.get? l = some (.file b)) ↔
    ∃ x ∈ (p.files m).take k, l = x.2.place t.cwd
  nodup : (((p.files m).take k).map fun x => x.2.place t.cwd).Nodup
  whole : ∀ x ∈ (p.files m).take k, ∃ text, p.overrides.text m x.1 = .ok text ∧
    u.lookup x.2 = .ok (x.2.place t.cwd, .file text.toUTF8)
  directory : ∀ l, t.get? l = none → u.get? l = some .directory →
    ∃ x ∈ (p.files m).take (k + 1), l ∈ x.2.way t.cwd

theorem Made.nothing (p : Processor) (m : EndpointModel) (t : FileTree) : p.Made m t t 0 := by
  refine ⟨Nat.zero_le _, fun l => ?_, by simp, by simp, fun l hn hd => ?_⟩
  · simp only [List.take_zero, List.not_mem_nil, false_and, exists_false, iff_false, not_and]
    rintro hn ⟨b, hb⟩
    rw [hn] at hb
    cases hb
  · rw [hn] at hd
    cases hd

theorem Reached.made (h : p.Reached m ArtifactKind.all t result u k) : p.Made m t u k := by
  constructor
  · exact h.le
  · intro l
    rw [h.wrote.file_iff]
    constructor
    · rintro ⟨f, hf, rfl⟩
      obtain ⟨x, hx, rfl⟩ := List.mem_map.1 hf
      exact ⟨x, hx, rfl⟩
    · rintro ⟨x, hx, rfl⟩
      exact ⟨_, List.mem_map_of_mem hx, rfl⟩
  · have := h.wrote.nodup
    rwa [List.map_map] at this
  · intro x hx
    obtain ⟨text, htext⟩ := h.rendered x hx
    have := h.wrote.there _ (List.mem_map_of_mem hx)
    rw [bytes_of_text htext] at this
    exact ⟨text, htext, this⟩
  · intro l hn hd
    obtain ⟨q, hq, hw⟩ := h.wrote.directory hn hd
    obtain ⟨x, hx, rfl⟩ := List.mem_map.1 hq
    exact ⟨x, hx, hw⟩

/-- A round removes and replaces nothing. -/
theorem Processed.within {r : Round} {result : Except ProcessError Report}
    (h : p.Processed r t result u) : t.Within u := by
  cases h with
  | skipped _ | incomplete _ _ => exact FileTree.Within.refl t
  | written _ _ hk => exact hk.wrote.within

/-- Without a marker, or without a part of the model that the policy asks for, nothing is made. -/
theorem Processed.eq_of_refused {r : Round} {result : Except ProcessError Report}
    (h : p.Processed r t result u)
    (hr : r.isEmpty = true ∨ p.policy = .strict ∧ (scan r.declarations).missingFields ≠ []) :
    u = t := by
  cases h with
  | skipped _ | incomplete _ _ => rfl
  | written hne hc _ =>
    rcases hr with hr | ⟨hs, hm⟩
    · rw [hr] at hne
      cases hne
    · rw [hs, EndpointModel.check, if_neg hm] at hc
      cases hc

/-- However a round ends, the first `k` of its files are made, all four if it succeeds; it collides
exactly if the path of the next file, which is to be written, leads to something. -/
theorem Processed.exists_made {r : Round} {result : Except ProcessError Report}
    (h : p.Processed r t result u) :
    ∃ k, p.Made (scan r.declarations) t u k ∧ (r.isEmpty = false → (result.isOk ↔ k = 4)) ∧
      ∀ q, result = .error (.emit (.collision q)) ↔
        (r.isEmpty = false ∧ (scan r.declarations).check p.policy = .ok ()) ∧
        ∃ kind text, (p.files (scan r.declarations))[k]? = some (kind, q) ∧
          p.overrides.text (scan r.declarations) kind = .ok text ∧
          q.namesDirectory = false ∧ u.pathExists q = true := by
  cases h with
  | skipped hr =>
    refine ⟨0, .nothing _ _ _, fun hne => ?_, fun q => by simp [hr]⟩
    rw [hr] at hne
    cases hne
  | incomplete hr hc =>
    exact ⟨0, .nothing _ _ _, fun _ => by simp [Except.isOk, Except.toBool], fun q => by simp [hc]⟩
  | @written result _ k hr hc hk =>
    refine ⟨k, hk.made, fun _ => ?_, fun q => ?_⟩
    · have hok : (result.map fun as => Report.mk (some (scan r.declarations)) as).isOk =
          result.isOk := by
        cases result <;> rfl
      rw [hok]
      exact hk.isOk_iff
    · have herror : (result.map fun as => Report.mk (some (scan r.declarations)) as) =
          .error (.emit (.collision q)) ↔ result = .error (.emit (.collision q)) := by
        cases result <;> simp [Except.map]
      rw [herror, hk.collision_iff]
      exact ⟨fun h => ⟨⟨hr, hc⟩, h⟩, fun h => h.2⟩

/-- A round leaves the first `k` of its files, all four exactly if it succeeds. -/
theorem processRound_makes_prefix (overrides : Overrides) (generated counterpart : Path)
    (extension : String) (policy : Policy) (r : Round) (w : World) :
    let p : Processor := ⟨overrides, .ofRoots generated counterpart extension, policy⟩
    let m := scan r.declarations
    let t := w.tree
    let result := ((p.processRound r).runOn w).1
    let u := ((p.processRound r).runOn w).2.tree
    t.Within u ∧ (∃ k, p.Made m t u k ∧ (r.isEmpty = false → (result.isOk ↔ k = 4))) ∧
      (r.isEmpty = true → u = t) ∧
      (policy = .strict → m.missingFields ≠ [] → u = t) := by
  intro p m t result u
  have h : Processed p r t result u := processed_processRound rfl r w
  obtain ⟨k, hk, hok, -⟩ := h.exists_made
  refine ⟨h.within, ⟨k, hk, hok⟩, ?_, ?_⟩
  · exact fun hr => h.eq_of_refused (.inl hr)
  · exact fun hs hm => h.eq_of_refused (.inr ⟨hs, hm⟩)

/-- A controller with a GET route, in an empty working directory. -/
theorem processRound_makes_four :
    let p : Processor := ⟨{}, .ofRoots ⟨"out"⟩ ⟨"mirror"⟩ "rs", .strict⟩
    let r : Round := .ofDeclarations
      [{ name := "a.B", markers := [{ kind := .restController }] },
       { name := "a.B.one", markers := [{ kind := .getMapping }], declaredType := some "X" }]
    let w : World := { tree := ⟨[(["w"], .directory)], ["w"]⟩ }
    r.isEmpty = false ∧ ((p.processRound r).runOn w).1.isOk = true ∧
      p.Made (scan r.declarations) w.tree ((p.processRound r).runOn w).2.tree 4 := by
  intro p r w
  have hr : r.isEmpty = false := by decide +kernel
  have hok : ((p.processRound r).runOn w).1.isOk = true := by decide +kernel
  obtain ⟨-, ⟨k, hk, hiff⟩, -⟩ := processRound_makes_prefix {} ⟨"out"⟩ ⟨"mirror"⟩ "rs" .strict r w
  obtain rfl := (hiff hr).1 hok
  exact ⟨hr, hok, hk⟩

end EndpointStubs.Processor
