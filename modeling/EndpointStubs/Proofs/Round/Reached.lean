import EndpointStubs.Processor
import EndpointStubs.Proofs.Emit.Written

/-!
# How far a round gets

The artifacts of a round have files, two each, which are made in order. A round stops at one of
them, or it makes all. Where it stops at a file that is there already, this is a collision, and
there are no others.

    p.processRound r, run on t, gives u → u is t with the first k files of (p.files m)
    collision at q ↔ the k-th file is q, and its path leads to something
-/

namespace EndpointStubs

namespace Processor

open FileTree (Wrote)
open Emitter (Emitted)

/-- The files of an artifact, if its name has targets. -/
def filesFor (p : Processor) (m : EndpointModel) (kind : ArtifactKind) :
    List (ArtifactKind × Path) :=
  match p.emitter.targets (kind.nameIn m) with
  | .ok a => a.files.map fun q => (kind, q)
  | .error _ => []

/-- The files of the artifacts of a model, in the order in which they are made. -/
def files (p : Processor) (m : EndpointModel) : List (ArtifactKind × Path) :=
  ArtifactKind.all.flatMap (p.filesFor m)

/-- The bytes of an artifact, none if it has no text. -/
def bytes (p : Processor) (m : EndpointModel) (kind : ArtifactKind) : ByteArray :=
  ((p.overrides.text m kind).toOption.getD "").toUTF8

/-! ## One artifact -/

/-- How writing an artifact ends. -/
inductive Tried (p : Processor) (m : EndpointModel) (kind : ArtifactKind) (t : FileTree) :
    Except ProcessError Artifact → FileTree → Prop
  | unrendered {err : TemplateError} : p.overrides.text m kind = .error err →
      Tried p m kind t (.error (.template err)) t
  | refused {text : String} {err : EmitError} {u : FileTree} :
      p.overrides.text m kind = .ok text →
      Emitted p.emitter (kind.nameIn m) text.toUTF8 t (.error err) u →
      Tried p m kind t (.error (.emit err)) u
  | done {text : String} {a : Artifact} {u : FileTree} : p.overrides.text m kind = .ok text →
      Emitted p.emitter (kind.nameIn m) text.toUTF8 t (.ok a) u → Tried p m kind t (.ok a) u

/-- Writing an artifact ends in one of the ways. -/
theorem tried_writeArtifact (p : Processor) (m : EndpointModel) (kind : ArtifactKind) (w : World) :
    Tried p m kind w.tree ((p.writeArtifact m kind).runOn w).1
      ((p.writeArtifact m kind).runOn w).2.tree := by
  unfold writeArtifact
  rw [Session.runOn_bind, Session.runOn_ofExcept]
  cases htext : p.overrides.text m kind with
  | error err => exact .unrendered htext
  | ok text =>
    have h := Emitter.emitted_emit p.emitter (kind.nameIn m) text w
    simp only [Session.runOn_bind, Session.runOn_mapError]
    generalize (p.emitter.emit (kind.nameIn m) text).runOn w = r at h
    obtain ⟨err | a, w'⟩ := r
    · exact .refused htext h
    · exact .done htext h

variable {p : Processor} {m : EndpointModel} {kind : ArtifactKind}

theorem filesFor_of_targets {a : Artifact} (h : p.emitter.targets (kind.nameIn m) = .ok a) :
    p.filesFor m kind = [(kind, a.canonical), (kind, a.counterpart)] := by
  unfold filesFor
  rw [h]
  rfl

theorem filesFor_of_error {err : EmitError} (h : p.emitter.targets (kind.nameIn m) = .error err) :
    p.filesFor m kind = [] := by
  unfold filesFor
  rw [h]

theorem bytes_of_text {text : String} (h : p.overrides.text m kind = .ok text) :
    p.bytes m kind = text.toUTF8 := by
  unfold bytes
  rw [h]
  rfl

/-! ## All artifacts -/

/-- The first `k` of the files were made, and nothing else but directories on the way to one of
them or to the file after them. -/
structure Reached (p : Processor) (m : EndpointModel) (kinds : List ArtifactKind) (t : FileTree)
    (result : Except ProcessError (List Artifact)) (u : FileTree) (k : Nat) : Prop where
  le : k ≤ (kinds.flatMap (p.filesFor m)).length
  rendered : ∀ x ∈ (kinds.flatMap (p.filesFor m)).take k, ∃ text, p.overrides.text m x.1 = .ok text
  wrote : t.Wrote (((kinds.flatMap (p.filesFor m)).take k).map fun x => (x.2, p.bytes m x.1))
    (((kinds.flatMap (p.filesFor m)).take (k + 1)).map Prod.snd) u
  isOk_iff : result.isOk ↔ k = 2 * kinds.length
  collision_iff : ∀ q, result = .error (.emit (.collision q)) ↔
    ∃ kind text, (kinds.flatMap (p.filesFor m))[k]? = some (kind, q) ∧
      p.overrides.text m kind = .ok text ∧ q.namesDirectory = false ∧ u.pathExists q = true

/-- If an artifact has files, so have the ones before it. -/
def Downward (p : Processor) (m : EndpointModel) (kinds : List ArtifactKind) : Prop :=
  kinds.Pairwise fun a b => p.filesFor m a = [] → p.filesFor m b = []

variable {generated counterpart : Path} {extension : String}

theorem exists_last_of_targets {name : String} {a : Artifact}
    (h : (Emitter.ofRoots generated counterpart extension).targets name = .ok a) :
    (∃ cs n, a.canonical.components = cs ++ [.normal n]) ∧
      ∃ cs n, a.counterpart.components = cs ++ [.normal n] := by
  obtain ⟨hc, hm⟩ := Emitter.components_of_targets h
  obtain ⟨names, n, hn⟩ := List.eq_nil_or_concat _ |>.resolve_left
    (Layout.names_ne_nil ⟨generated, extension⟩ name)
  rw [hn, List.concat_eq_append, List.map_append, ← List.append_assoc] at hc hm
  exact ⟨⟨_, _, hc⟩, ⟨_, _, hm⟩⟩

/-- A refusal at a file is a collision exactly if the path of the file leads to something. -/
theorem collision_iff_of_refuses {u : FileTree} {q : Path} {err : EmitError}
    (h : u.Refuses q err) (hq : ∃ cs n, q.components = cs ++ [.normal n]) (q' : Path) :
    err = .collision q' ↔ q' = q ∧ q'.namesDirectory = false ∧ u.pathExists q' = true := by
  obtain ⟨cs, n, hq⟩ := hq
  constructor
  · intro he
    obtain rfl := h.eq_path q' he
    exact ⟨rfl, ((h.collision_iff cs n hq).1 he).symm⟩
  · rintro ⟨rfl, hn, hex⟩
    exact (h.collision_iff cs n hq).2 ⟨hex, hn⟩

theorem Reached.nothing {kinds : List ArtifactKind} {t : FileTree} {err : ProcessError}
    (hne : kinds ≠ []) (h : ∀ q, err ≠ .emit (.collision q))
    (hfirst : ∀ kind q text, (kinds.flatMap (p.filesFor m))[0]? = some (kind, q) →
      p.overrides.text m kind ≠ .ok text) :
    p.Reached m kinds t (.error err) t 0 := by
  have hlen : 0 < kinds.length := List.length_pos_iff.2 hne
  refine ⟨Nat.zero_le _, by simp, (Wrote.refl t).mono (by simp), ?_, fun q => ?_⟩
  · simp only [Except.isOk, Except.toBool, Bool.false_eq_true, false_iff]
    omega
  · constructor
    · intro he
      exact absurd (Except.error.inj he) (h q)
    · rintro ⟨kind, text, hq, htext, -⟩
      exact absurd htext (hfirst kind q text hq)

theorem Reached.refused {kinds : List ArtifactKind} {t u : FileTree} {err : EmitError} {k : Nat}
    {q : Path} {text : String} (hk : k < 2 * kinds.length)
    (hfile : (kinds.flatMap (p.filesFor m))[k]? = some (kind, q))
    (htext : p.overrides.text m kind = .ok text) (hr : u.Refuses q err)
    (hq : ∃ cs n, q.components = cs ++ [.normal n])
    (hrendered : ∀ x ∈ (kinds.flatMap (p.filesFor m)).take k,
      ∃ text, p.overrides.text m x.1 = .ok text)
    (hw : t.Wrote (((kinds.flatMap (p.filesFor m)).take k).map fun x => (x.2, p.bytes m x.1))
      (((kinds.flatMap (p.filesFor m)).take (k + 1)).map Prod.snd) u) :
    p.Reached m kinds t (.error (.emit err)) u k := by
  have hlt : k < (kinds.flatMap (p.filesFor m)).length := (List.getElem?_eq_some_iff.1 hfile).1
  refine ⟨Nat.le_of_lt hlt, hrendered, hw, ?_, fun q' => ?_⟩
  · simp only [Except.isOk, Except.toBool, Bool.false_eq_true, false_iff]
    omega
  · rw [Except.error.injEq, ProcessError.emit.injEq, collision_iff_of_refuses hr hq, hfile]
    constructor
    · rintro ⟨rfl, h⟩
      exact ⟨kind, text, rfl, htext, h⟩
    · rintro ⟨kind', text', he, -, h⟩
      obtain ⟨-, rfl⟩ := Prod.mk.inj (Option.some.inj he)
      exact ⟨rfl, h⟩

theorem flatMap_filesFor {kinds : List ArtifactKind} {a : Artifact}
    (ha : p.emitter.targets (kind.nameIn m) = .ok a) :
    (kind :: kinds).flatMap (p.filesFor m) =
      (kind, a.canonical) :: (kind, a.counterpart) :: kinds.flatMap (p.filesFor m) := by
  rw [List.flatMap_cons, filesFor_of_targets ha]
  rfl

/-- After the two files of the first artifact the others follow. -/
theorem Reached.after {kinds : List ArtifactKind} {t u v : FileTree} {a : Artifact} {k : Nat}
    {result : Except ProcessError (List Artifact)} {text : String}
    (htext : p.overrides.text m kind = .ok text)
    (ha : p.emitter.targets (kind.nameIn m) = .ok a)
    (hw : t.Wrote [(a.canonical, text.toUTF8), (a.counterpart, text.toUTF8)]
      [a.canonical, a.counterpart] u)
    (h : p.Reached m kinds u result v k) :
    p.Reached m (kind :: kinds) t (result.map (a :: ·)) v (k + 2) := by
  have hfiles : (kind :: kinds).flatMap (p.filesFor m) =
      (kind, a.canonical) :: (kind, a.counterpart) :: kinds.flatMap (p.filesFor m) :=
    flatMap_filesFor ha
  constructor
  · rw [hfiles]
    exact Nat.add_le_add_right h.le 2
  · rw [hfiles]
    intro x hx
    simp only [List.take_succ_cons, List.mem_cons] at hx
    rcases hx with rfl | rfl | hx
    · exact ⟨text, htext⟩
    · exact ⟨text, htext⟩
    · exact h.rendered x hx
  · rw [hfiles]
    have := hw.trans h.wrote
    simpa [List.take_succ_cons, bytes_of_text htext] using this
  · have := h.isOk_iff
    rw [List.length_cons]
    cases result with
    | ok as =>
      simp only [Except.isOk, Except.toBool, Except.map, true_iff] at this ⊢
      omega
    | error err =>
      simp only [Except.isOk, Except.toBool, Except.map, Bool.false_eq_true, false_iff] at this ⊢
      omega
  · intro q
    rw [hfiles]
    simp only [List.getElem?_cons_succ]
    rw [← h.collision_iff q]
    cases result with
    | ok as => simp [Except.map]
    | error err => simp [Except.map]

/-- A round stops at the artifact that is not written. -/
theorem exists_reached_of_tried (hp : p.emitter = .ofRoots generated counterpart extension)
    {kinds : List ArtifactKind} (hd : p.Downward m (kind :: kinds)) {t u : FileTree}
    {err : ProcessError} (h : Tried p m kind t (.error err) u) :
    ∃ k, p.Reached m (kind :: kinds) t (.error err) u k := by
  have hnone : p.filesFor m kind = [] → (kind :: kinds).flatMap (p.filesFor m) = [] := by
    intro hf
    rw [List.flatMap_cons, hf, List.nil_append, List.flatMap_eq_nil_iff]
    exact fun x hx => (List.pairwise_cons.1 hd).1 x hx hf
  cases h with
  | unrendered htext =>
    refine ⟨0, .nothing (by simp) (by simp) fun kind' q text hq hok => ?_⟩
    cases ha : p.emitter.targets (kind.nameIn m) with
    | error err => simp [hnone (filesFor_of_error ha)] at hq
    | ok a =>
      rw [flatMap_filesFor ha] at hq
      obtain ⟨rfl, -⟩ := Prod.mk.inj (Option.some.inj hq)
      rw [htext] at hok
      cases hok
  | refused htext he =>
    have hlen : 0 < (kind :: kinds).length := Nat.zero_lt_succ _
    cases he with
    | @noTargets err ha =>
      refine ⟨0, .nothing (by simp) ?_ fun kind' q text hq => ?_⟩
      · rintro q he
        obtain rfl := ProcessError.emit.inj he
        exact Emitter.targets_ne_collision _ _ _ ha
      · simp [hnone (filesFor_of_error ha)] at hq
    | canonicalRefused ha hw hr =>
      have hlast := exists_last_of_targets (hp ▸ ha)
      refine ⟨0, .refused (by omega) (by rw [flatMap_filesFor ha]; rfl) htext hr hlast.1 ?_ ?_⟩
      · simp
      · rw [flatMap_filesFor ha]
        exact hw
    | counterpartRefused ha hw hr =>
      have hlast := exists_last_of_targets (hp ▸ ha)
      refine ⟨1, .refused (by omega) (by rw [flatMap_filesFor ha]; rfl) htext hr hlast.2 ?_ ?_⟩
      · rw [flatMap_filesFor ha]
        intro x hx
        obtain rfl := List.mem_singleton.1 hx
        exact ⟨_, htext⟩
      · rw [flatMap_filesFor ha]
        simpa [bytes_of_text htext] using hw

/-- Writing artifacts in order reaches some number of their files. -/
theorem reached_mapM (hp : p.emitter = .ofRoots generated counterpart extension)
    {kinds : List ArtifactKind} (hd : p.Downward m kinds) (w : World) :
    ∃ k, p.Reached m kinds w.tree ((kinds.mapM (p.writeArtifact m)).runOn w).1
      ((kinds.mapM (p.writeArtifact m)).runOn w).2.tree k := by
  induction kinds generalizing w with
  | nil =>
    exact ⟨0, Nat.le_refl _, by simp, Wrote.refl _, by simp [Except.isOk, Except.toBool],
      fun q => by simp⟩
  | cons kind kinds ih =>
    have h := tried_writeArtifact p m kind w
    rw [List.mapM_cons, Session.runOn_bind]
    generalize (p.writeArtifact m kind).runOn w = r at h
    obtain ⟨err | a, w'⟩ := r
    · exact exists_reached_of_tried hp hd h
    · simp only at h ⊢
      generalize hu : w'.tree = u at h
      cases h with
      | done htext he =>
        obtain ⟨ha, hw⟩ := he.targets_of_ok
        obtain ⟨k, hr⟩ := ih (List.pairwise_cons.1 hd).2 w'
        rw [hu] at hr
        have := hr.after htext ha hw
        simp only [Session.runOn_bind]
        generalize (kinds.mapM (p.writeArtifact m)).runOn w' = r at this ⊢
        obtain ⟨err | as, w''⟩ := r
        · exact ⟨_, this⟩
        · exact ⟨_, this⟩

/-! ## Rounds -/

theorem filesFor_eq_nil_iff :
    p.filesFor m kind = [] ↔ ¬∃ a, p.emitter.targets (kind.nameIn m) = .ok a := by
  cases ha : p.emitter.targets (kind.nameIn m) with
  | ok a => simp [filesFor_of_targets ha]
  | error err => simp [filesFor_of_error ha]

/-- Without a path for the base there is none for a stub: both are in the same package, and the
name of the base is a segment. -/
theorem downward_all (hp : p.emitter = .ofRoots generated counterpart extension)
    (m : EndpointModel) : p.Downward m ArtifactKind.all := by
  have hbase : (QualifiedName.segments EndpointModel.stubBaseName).all QualifiedName.isSegment := by
    decide +kernel
  simp only [Downward, ArtifactKind.all, List.pairwise_cons, List.mem_singleton, forall_eq,
    List.not_mem_nil, false_imp_iff, implies_true, List.Pairwise.nil, and_true,
    filesFor_eq_nil_iff, hp, Emitter.exists_targets_iff]
  intro h hstub
  refine h ⟨?_, hstub.2⟩
  have hs := hstub.1
  simp only [ArtifactKind.nameIn, EndpointModel.stubName, EndpointModel.stubBaseFullName,
    QualifiedName.segments_qualify, List.all_append, Bool.and_eq_true] at hs ⊢
  exact ⟨hs.1, hbase⟩

/-- A round with markers asks the policy, and then writes the artifacts. -/
theorem runOn_processRound_of_marked {r : Round} (hr : r.isEmpty = false) (w : World) :
    ∃ v : World, v.tree = w.tree ∧ (p.processRound r).runOn w =
      match (scan r.declarations).check p.policy with
      | .error e => (.error (.incomplete e), v)
      | .ok () =>
        match (ArtifactKind.all.mapM (p.writeArtifact (scan r.declarations))).runOn v with
        | (.ok as, v') => (.ok ⟨some (scan r.declarations), as⟩, v')
        | (.error e, v') => (.error e, v') := by
  unfold processRound
  simp only [hr, Bool.false_eq_true, if_false, Session.runOn_bind, Session.runOn_reportAll,
    Session.runOn_report, Session.runOn_ofExcept]
  generalize hv : World.mk w.tree _ = v
  refine ⟨v, by rw [← hv], ?_⟩
  cases (scan r.declarations).check p.policy with
  | error e => rfl
  | ok x =>
    simp only
    rcases (ArtifactKind.all.mapM (p.writeArtifact (scan r.declarations))).runOn v with
      ⟨e | as, v'⟩ <;> rfl

/-- How processing a round ends. -/
inductive Processed (p : Processor) (r : Round) (t : FileTree) :
    Except ProcessError Report → FileTree → Prop
  | skipped : r.isEmpty = true → Processed p r t (.ok {}) t
  | incomplete {err : EndpointModel.Incomplete} : r.isEmpty = false →
      (scan r.declarations).check p.policy = .error err →
      Processed p r t (.error (.incomplete err)) t
  | written {result : Except ProcessError (List Artifact)} {u : FileTree} {k : Nat} :
      r.isEmpty = false → (scan r.declarations).check p.policy = .ok () →
      p.Reached (scan r.declarations) ArtifactKind.all t result u k →
      Processed p r t (result.map fun as => ⟨some (scan r.declarations), as⟩) u

/-- Processing a round ends in one of the ways. -/
theorem processed_processRound (hp : p.emitter = .ofRoots generated counterpart extension)
    (r : Round) (w : World) :
    Processed p r w.tree ((p.processRound r).runOn w).1 ((p.processRound r).runOn w).2.tree := by
  by_cases hr : r.isEmpty = true
  · unfold processRound
    simp only [hr, if_true, Session.runOn_bind, Session.runOn_report, Session.runOn_pure]
    exact .skipped hr
  · rw [Bool.not_eq_true] at hr
    obtain ⟨v, hv, hrun⟩ := runOn_processRound_of_marked (p := p) hr w
    rw [hrun]
    cases hc : (scan r.declarations).check p.policy with
    | error err =>
      simp only [hv]
      exact .incomplete hr hc
    | ok x =>
      obtain ⟨k, h⟩ := reached_mapM hp (downward_all hp (scan r.declarations)) v
      rw [hv] at h
      simp only
      generalize (ArtifactKind.all.mapM (p.writeArtifact (scan r.declarations))).runOn v = res
        at h ⊢
      obtain ⟨err | as, v'⟩ := res
      · exact .written hr hc h
      · exact .written hr hc h

theorem isEmpty_of_model? {r : Round} {w w' : World} {report : Report}
    (h : (p.processRound r).runOn w = (.ok report, w')) (hm : report.model? = some m) :
    r.isEmpty = false := by
  by_contra hr
  rw [Bool.not_eq_false] at hr
  unfold processRound at h
  simp only [hr, if_true, Session.runOn_bind, Session.runOn_report, Session.runOn_pure,
    Prod.mk.injEq, Except.ok.injEq] at h
  obtain ⟨rfl, -⟩ := h
  cases hm

/-- A round with markers that succeeds has passed the policy, and all of its artifacts have been
written. -/
theorem written_of_processRound {r : Round} {w w' : World} {report : Report}
    (hr : r.isEmpty = false) (h : (p.processRound r).runOn w = (.ok report, w')) :
    (scan r.declarations).check p.policy = .ok () ∧
      ∃ v as, (ArtifactKind.all.mapM (p.writeArtifact (scan r.declarations))).runOn v =
        (.ok as, w') ∧ report = ⟨some (scan r.declarations), as⟩ := by
  obtain ⟨v, -, hrun⟩ := runOn_processRound_of_marked (p := p) hr w
  rw [h] at hrun
  cases hc : (scan r.declarations).check p.policy with
  | error err =>
    rw [hc] at hrun
    cases hrun
  | ok x =>
    rw [hc] at hrun
    simp only at hrun
    refine ⟨rfl, v, ?_⟩
    generalize (ArtifactKind.all.mapM (p.writeArtifact (scan r.declarations))).runOn v = res
      at hrun ⊢
    obtain ⟨err | as, v'⟩ := res
    · cases hrun
    · obtain ⟨hreport, rfl⟩ := Prod.mk.inj hrun
      exact ⟨as, rfl, Except.ok.inj hreport⟩

/-- A round that is processed to a model: it is that of the declarations, it passes the policy, and
its artifacts have paths. -/
theorem processRound_eq_ok {r : Round} {w w' : World} {report : Report}
    (h : (p.processRound r).runOn w = (.ok report, w')) (hm : report.model? = some m) :
    m = scan r.declarations ∧ m.check p.policy = .ok () ∧
      ∀ kind ∈ ArtifactKind.all, ∃ a, p.emitter.targets (kind.nameIn m) = .ok a := by
  obtain ⟨hcheck, v, as, hall, rfl⟩ := written_of_processRound (isEmpty_of_model? h hm) h
  obtain rfl := Option.some.inj hm
  refine ⟨rfl, hcheck, fun kind hkind => ?_⟩
  obtain ⟨a, u, u', hwritten⟩ := Session.exists_runOn_of_mem hall hkind
  have htried := tried_writeArtifact p (scan r.declarations) kind u
  rw [hwritten] at htried
  cases htried with
  | done _ he => exact ⟨a, he.targets_of_ok.1⟩

end Processor

end EndpointStubs
