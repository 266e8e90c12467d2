import EndpointStubs.Proofs.Round.Kept
import EndpointStubs.Proofs.Round.Places
import EndpointStubs.Proofs.Round.Room

/-!
# Rounds run again

A round that has succeeded can be run again on any tree that holds the one that it was run on, as
long as there are no further files where it has left something. It succeeds again, with the same
report, and adds no more than it did. So on a part of what it has left it makes up for the rest.

    Between t x u v → if (p.processRound r) takes t to u, it takes x to a tree between u and v
    Between t x u u → if (p.processRound r) takes t to u, it takes x to u as well
-/

namespace EndpointStubs

open FileTree (Wrote)
open Session (Keeps)

/-- `x` is a part of `v` that has everything of `t`, and further files only where `u` has nothing. -/
structure Between (t x u v : FileTree) : Prop where
  left : t.Within x
  right : x.Within v
  files : ∀ l b, x.get? l = some (.file b) → t.get? l = some (.file b) ∨ u.get? l = none
  cwd : x.get? x.cwd = some .directory

/-- Nothing is between a tree and itself but the same entries. -/
theorem Between.get?_eq {x u v : FileTree} (h : Between v x u v) (l : Location) :
    x.get? l = v.get? l :=
  Option.ext fun e => ⟨h.right.keeps l e, h.left.keeps l e⟩

/-- A file of the whole that was missing is still missing. -/
theorem Between.get?_eq_none {t x u v : FileTree} (h : Between t x u v) {l : Location}
    {b : ByteArray} (ht : t.get? l = none) (hu : u.get? l = some (.file b))
    (hv : v.get? l = some (.file b)) : x.get? l = none := by
  refine Option.eq_none_iff_forall_ne_some.2 fun e he => ?_
  have hev := h.right.keeps _ _ he
  rw [hv] at hev
  obtain rfl := Option.some.inj hev
  rcases h.files _ _ he with hold | hnone
  · rw [hold] at ht
    cases ht
  · rw [hnone] at hu
    cases hu

/-- One file, written in both trees, leaves the one between. -/
theorem Between.wrote {t t' x x' u v : FileTree} (h : Between t x u v) {f : Path × ByteArray}
    (ht : t.Wrote [f] [f.1] t') (hx : x.Wrote [f] [f.1] x') (hv : x'.Within v) :
    Between t' x' u v := by
  have hthere := ht.there f (List.mem_singleton_self f)
  have hthere' := hx.there f (List.mem_singleton_self f)
  refine ⟨⟨?_, fun l e he => ?_⟩, hv, fun l b hb => ?_, ?_⟩
  · rw [hx.within.cwd, h.left.cwd, ht.within.cwd]
  · rcases ht.of_get? he with hold | ⟨g, hg, rfl, rfl⟩ | ⟨rfl, q, hq, hway⟩
    · exact hx.within.keeps _ _ (h.left.keeps _ _ hold)
    · obtain rfl := List.mem_singleton.1 hg
      rw [← h.left.cwd]
      exact (FileTree.lookup_eq_ok_iff.1 hthere').2
    · obtain rfl := List.mem_singleton.1 hq
      refine FileTree.directory_of_mem_way (FileTree.lookup_eq_ok_iff.1 hthere').1 ?_
      rwa [hx.within.cwd, h.left.cwd]
  · rcases hx.of_get? hb with hold | ⟨g, hg, rfl, hgb⟩ | ⟨hd, -⟩
    · exact (h.files _ _ hold).imp_left (ht.within.keeps _ _)
    · left
      obtain rfl := List.mem_singleton.1 hg
      obtain rfl := Entry.file.inj hgb
      rw [h.left.cwd]
      exact (FileTree.lookup_eq_ok_iff.1 hthere).2
    · cases hd
  · rw [hx.within.cwd]
    exact hx.within.keeps _ _ h.cwd

namespace Session

variable {ε ε' α β : Type} {u v : FileTree}

/-- The session only adds to the tree, and what succeeds within `u` succeeds in the same way on each
tree between. -/
structure Repeats (u v : FileTree) (s : Session ε α) : Prop where
  adds : ∀ t : FileTree, Keeps t.Within s
  replays : ∀ w w' a, s.runOn w = (.ok a, w') → w'.tree.Within u →
    ∀ x : World, Between w.tree x.tree u v →
      ∃ x', s.runOn x = (.ok a, x') ∧ Between w'.tree x'.tree u v

theorem repeats_pure (a : α) : Repeats u v (pure a : Session ε α) := by
  refine ⟨fun t => keeps_pure a, fun w w' b h _ x hx => ?_⟩
  obtain ⟨hb, rfl⟩ := Prod.mk.inj h
  exact ⟨x, by rw [← hb]; rfl, hx⟩

theorem repeats_throw (e : ε) : Repeats u v (throw e : Session ε α) :=
  ⟨fun _ => (keepsTree_throw e).keeps, fun _ _ _ h => by cases h⟩

theorem repeats_report (e : Event) : Repeats u v (report e : Session ε Unit) := by
  refine ⟨fun t => (keepsTree_report e).keeps, fun w w' a h _ x hx => ?_⟩
  obtain ⟨-, rfl⟩ := Prod.mk.inj h
  exact ⟨_, rfl, hx⟩

theorem repeats_reportAll (es : List Event) : Repeats u v (reportAll es : Session ε Unit) := by
  refine ⟨fun t _ hw => hw, fun w w' a h _ x hx => ?_⟩
  obtain ⟨-, rfl⟩ := Prod.mk.inj h
  exact ⟨_, rfl, hx⟩

theorem repeats_ofExcept (cause : ε' → ε) (y : Except ε' α) : Repeats u v (ofExcept cause y) := by
  cases y with
  | ok a => exact repeats_pure a
  | error e => exact repeats_throw (cause e)

theorem Repeats.bind {s : Session ε α} {f : α → Session ε β} (hs : Repeats u v s)
    (hf : ∀ a, Repeats u v (f a)) : Repeats u v (s >>= f) := by
  refine ⟨fun t => (hs.adds t).bind fun a => (hf a).adds t, fun w w' b h hv x hx => ?_⟩
  obtain ⟨a, w₁, hr, h⟩ := runOn_bind_eq_ok_iff.1 h
  have hw₁ : w₁.tree.Within w'.tree := by
    have := (hf a).adds w₁.tree w₁ (FileTree.Within.refl _)
    rwa [h] at this
  obtain ⟨x₁, hsx, hx₁⟩ := hs.replays w w₁ a hr (hw₁.trans hv) x hx
  obtain ⟨x', hfx, hx'⟩ := (hf a).replays w₁ w' b h hv x₁ hx₁
  exact ⟨x', runOn_bind_eq_ok_iff.2 ⟨a, x₁, hsx, hfx⟩, hx'⟩

theorem Repeats.mapError {s : Session ε' α} (hs : Repeats u v s) (cause : ε' → ε) :
    Repeats u v (mapError cause s) := by
  refine ⟨fun t => (hs.adds t).mapError cause, fun w w' a h hv x hx => ?_⟩
  obtain ⟨x', hsx, hx'⟩ := hs.replays w w' a (runOn_mapError_eq_ok_iff.1 h) hv x hx
  exact ⟨x', runOn_mapError_eq_ok_iff.2 hsx, hx'⟩

theorem repeats_mapM {f : α → Session ε β} (hf : ∀ a, Repeats u v (f a)) (as : List α) :
    Repeats u v (as.mapM f) := by
  induction as with
  | nil => exact repeats_pure []
  | cons a as ih =>
    rw [List.mapM_cons]
    exact (hf a).bind fun b => ih.bind fun bs => repeats_pure (b :: bs)

/-- Where a failure is only reported and passed on, a success is that of the session itself. -/
theorem Repeats.tryCatch {s : Session ε α} (hs : Repeats u v s) (note : ε → Event) :
    Repeats u v (tryCatch s fun e => do report (note e); throw e) := by
  refine ⟨fun t => (hs.adds t).tryCatch fun e => ?_, fun w w' a h hv x hx => ?_⟩
  · exact ((keepsTree_report _).bind fun _ => keepsTree_throw e).keeps
  · rw [runOn_tryCatch] at h
    generalize hr : s.runOn w = r at h
    obtain ⟨e | b, w₁⟩ := r
    · simp only [runOn_bind, runOn_report, runOn_throw] at h
      cases h
    · obtain ⟨hb, rfl⟩ := Prod.mk.inj h
      obtain rfl := Except.ok.inj hb
      obtain ⟨x', hx', hbetween⟩ := hs.replays w w₁ b hr hv x hx
      exact ⟨x', by rw [runOn_tryCatch, hx'], hbetween⟩

end Session

open Session (Repeats)

namespace Emitter

/-- Where the roots do not go up, the files of a name do not. -/
theorem down_of_targets {generated counterpart : Path} {extension name : String} {a : Artifact}
    (hdown : ∀ root ∈ [generated, counterpart], Path.Component.parent ∉ root.components)
    (h : (ofRoots generated counterpart extension).targets name = .ok a) :
    Path.Component.parent ∉ a.canonical.components ∧
      Path.Component.parent ∉ a.counterpart.components := by
  obtain ⟨hc, hm⟩ := components_of_targets h
  have hg := hdown generated (by simp)
  have hcr := hdown counterpart (by simp)
  rw [hc, hm]
  simp [hg, hcr]

variable {u v : FileTree} (huv : u.Within v) {p : Path} {contents : String}

include huv

/-- A new file can be written again where it is missing. -/
theorem repeats_writeNew (hdown : Path.Component.parent ∉ p.components) :
    Repeats u v (writeNew p contents) := by
  refine ⟨fun t => keeps_writeNew adds_createDirectory adds_createFile p contents, ?_⟩
  intro w w' a h hv x hx
  obtain ⟨before, name, hp⟩ := exists_endsIn h
  have hdots := Path.not_mem_body hdown
  have hw := written_writeNew p contents w
  rw [h] at hw
  cases hw with
  | done hw =>
  have hthere := hw.there (p, contents.toUTF8) (List.mem_singleton_self _)
  have hfresh := hw.fresh (List.mem_singleton_self (p, contents.toUTF8))
  simp only at hthere hfresh
  have hlv := (hv.trans huv).lookup hthere
  have hlu := hv.keeps _ _ (FileTree.lookup_eq_ok_iff.1 hthere).2
  have hnone := hx.get?_eq_none hfresh hlu (FileTree.lookup_eq_ok_iff.1 hlv).2
  obtain ⟨x', hx', hx'v, -⟩ := runOn_writeNew_within hp hdots hx.cwd hx.right hlv hnone
  have hw₂ := written_writeNew p contents x
  rw [hx'] at hw₂
  cases hw₂ with
  | done hw₂ => exact ⟨x', hx', hx.wrote hw hw₂ hx'v⟩

/-- Emitting below roots that stay down can be repeated. -/
theorem repeats_emit {generated counterpart : Path} {extension : String}
    (hdown : ∀ root ∈ [generated, counterpart], Path.Component.parent ∉ root.components)
    (name contents : String) :
    Repeats u v ((ofRoots generated counterpart extension).emit name contents) := by
  refine Repeats.tryCatch ?_ (failure name)
  unfold write
  cases ha : (ofRoots generated counterpart extension).targets name with
  | error err => exact Session.repeats_throw err
  | ok a =>
    obtain ⟨hc, hm⟩ := down_of_targets hdown ha
    change Repeats u v do
      writeNew a.canonical contents
      writeNew a.counterpart contents
      return a
    exact (repeats_writeNew huv hc).bind fun _ =>
      (repeats_writeNew huv hm).bind fun _ => Session.repeats_pure a

end Emitter

/-- A round that has succeeded succeeds on every tree between, with the same report. -/
theorem Processor.repeats_processRound {p : Processor} {g c : Path} {extension : String}
    {u v : FileTree} (huv : u.Within v) (hp : p.emitter = .ofRoots g c extension)
    (hdown : ∀ root ∈ [g, c], Path.Component.parent ∉ root.components) (r : Round) :
    Repeats u v (p.processRound r) := by
  have hone : ∀ m kind, Repeats u v (p.writeArtifact m kind) := by
    intro m kind
    unfold writeArtifact
    refine (Session.repeats_ofExcept _ _).bind fun text => ?_
    refine Repeats.bind ?_ fun a => ?_
    · rw [hp]
      exact (Emitter.repeats_emit huv hdown _ text).mapError _
    · exact (Session.repeats_report _).bind fun _ => Session.repeats_pure a
  unfold processRound
  split
  · exact (Session.repeats_report _).bind fun _ => Session.repeats_pure _
  · refine (Session.repeats_reportAll _).bind fun _ => ?_
    refine (Session.repeats_report _).bind fun _ => ?_
    refine (Session.repeats_ofExcept _ _).bind fun _ => ?_
    exact (Session.repeats_mapM (hone _) _).bind fun as => Session.repeats_pure _

end EndpointStubs
