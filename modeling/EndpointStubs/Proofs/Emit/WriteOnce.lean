import EndpointStubs.Proofs.Emit.Written
import EndpointStubs.Proofs.FileTree.History

/-!
# Writing once

Artifacts are emitted one after the other, and some fail. What was written is not written again
and never changes, and a file below the counterpart root comes after the file of the same names
below the generated root, with the same content. All this holds of every tree on the way.

    x before y in a run, x.name = y.name → x succeeds → y fails
    v.get? (counterpart ++ rel) = some (.file b) → v.get? (generated ++ rel) = some (.file b)
-/

namespace EndpointStubs

/-! ## Runs -/

/-- One call of the emitter: what was to be written, what came of it, and the tree after it. -/
structure Emission where
  name : String
  contents : String
  result : Except EmitError Artifact
  after : FileTree

namespace Emitter

open FileTree (Wrote Led)

/-- Emits artifacts one after the other, whatever comes of each. -/
def run (e : Emitter) : List (String × String) → World → List Emission × World
  | [], w => ([], w)
  | (name, contents) :: calls, w =>
    let r := (e.emit name contents).runOn w
    let rest := run e calls r.2
    (⟨name, contents, r.1, r.2.tree⟩ :: rest.1, rest.2)

/-- How a run of calls changes a tree. -/
inductive Runs (e : Emitter) : FileTree → List Emission → FileTree → Prop
  | done {t : FileTree} : Runs e t [] t
  | call {t u : FileTree} {x : Emission} {xs : List Emission} :
      Emitted e x.name x.contents.toUTF8 t x.result x.after → Runs e x.after xs u →
      Runs e t (x :: xs) u

theorem runs_run (e : Emitter) (calls : List (String × String)) (w : World) :
    Runs e w.tree (e.run calls w).1 (e.run calls w).2.tree := by
  induction calls generalizing w with
  | nil => exact .done
  | cons c calls ih => exact .call (emitted_emit e c.1 c.2 w) (ih _)

variable {e : Emitter} {name : String} {bytes : ByteArray} {t u v : FileTree}
  {r : Except EmitError Artifact} {xs : List Emission}

/-! ## What one call keeps -/

theorem Emitted.grows (h : Emitted e name bytes t r u) : ∃ new, t.Grows new u := by
  obtain ⟨fs, ps, hw, -⟩ := h.wrote
  obtain ⟨new, hg, -⟩ := hw.grows
  exact ⟨new, hg⟩

theorem Emitted.led {generated counterpart : Path} {extension : String}
    (h : Emitted (ofRoots generated counterpart extension) name bytes t r u)
    (hg : ¬generated.place t.cwd <+: counterpart.place t.cwd)
    (hm : ¬counterpart.place t.cwd <+: generated.place t.cwd) :
    ∃ new, t.Grows new u ∧ Led (generated.place t.cwd) (counterpart.place t.cwd) new := by
  obtain ⟨fs, ps, hw, hfs⟩ := h.wrote
  obtain ⟨new, hgrows, hfiles, -⟩ := hw.grows
  refine ⟨new, hgrows, Led.of_filter ?_⟩
  rw [hfiles]
  rcases hfs with rfl | ⟨a, ha, hfs⟩
  · exact fun before rel b after h => by simp at h
  · obtain ⟨hc, hm'⟩ := place_of_targets t.cwd ha
    rcases hfs with rfl | rfl
    · simp only [List.map_cons, List.map_nil, hc]
      exact FileTree.led_original hg hm _ _
    · simp only [List.map_cons, List.map_nil, hc, hm']
      exact FileTree.led_pair hg hm _ _

/-! ## What a run keeps -/

/-- What each call says of its new entries, and what a list of entries has if its parts have it,
holds of all new entries of a run. -/
theorem Runs.exists_new {P : List (Location × Entry) → Prop} (hnil : P [])
    (happend : ∀ new new', P new → P new' → P (new ++ new'))
    (hcall : ∀ name bytes s r v, s.cwd = t.cwd → Emitted e name bytes s r v →
      ∃ new, s.Grows new v ∧ P new)
    (h : Runs e t xs u) : ∃ new, t.Grows new u ∧ P new := by
  induction h with
  | done => exact ⟨[], FileTree.Grows.refl _, hnil⟩
  | call hx _ ih =>
    obtain ⟨new, hgrows, hnew⟩ := hcall _ _ _ _ _ rfl hx
    rw [← hgrows.cwd] at hcall
    obtain ⟨new', hgrows', hnew'⟩ := ih hcall
    exact ⟨new ++ new', hgrows.trans hgrows', happend _ _ hnew hnew'⟩

theorem Runs.grows (h : Runs e t xs u) : ∃ new, t.Grows new u := by
  obtain ⟨new, hgrows, -⟩ := h.exists_new (P := fun _ => True) trivial (fun _ _ _ _ => trivial)
    fun name bytes s r v _ hs => by
      obtain ⟨new, hgrows⟩ := hs.grows
      exact ⟨new, hgrows, trivial⟩
  exact ⟨new, hgrows⟩

theorem Runs.led {generated counterpart : Path} {extension : String}
    (h : Runs (ofRoots generated counterpart extension) t xs u)
    (hg : ¬generated.place t.cwd <+: counterpart.place t.cwd)
    (hm : ¬counterpart.place t.cwd <+: generated.place t.cwd) :
    ∃ new, t.Grows new u ∧ Led (generated.place t.cwd) (counterpart.place t.cwd) new := by
  refine h.exists_new ?_ (fun _ _ => Led.append) fun name bytes s r v hs hx => ?_
  · exact fun before rel b after h => by simp at h
  · rw [← hs] at hg hm ⊢
    exact hx.led hg hm

/-- The trees after the calls follow one another. -/
theorem Runs.ordered (h : Runs e t xs u) :
    (t :: xs.map Emission.after ++ [u]).Pairwise FileTree.Before := by
  induction h with
  | done => simp [FileTree.Before.refl]
  | call hx _ ih =>
    obtain ⟨new, hgrows⟩ := hx.grows
    refine List.pairwise_cons.2 ⟨fun v hv => ?_, ih⟩
    rcases List.mem_cons.1 hv with rfl | hv
    · exact hgrows.before
    · exact hgrows.before.trans ((List.pairwise_cons.1 ih).1 v hv)

/-- A call of the run works on a tree that has all of the first one. -/
theorem Runs.of_mem (h : Runs e t xs u) {y : Emission} (hy : y ∈ xs) :
    ∃ s, t.Within s ∧ Emitted e y.name y.contents.toUTF8 s y.result y.after := by
  induction h with
  | done => cases hy
  | call hx _ ih =>
    rcases List.mem_cons.1 hy with rfl | hy
    · exact ⟨_, FileTree.Within.refl _, hx⟩
    · obtain ⟨new, hgrows⟩ := hx.grows
      obtain ⟨s, hs, he⟩ := ih hy
      exact ⟨s, hgrows.within.trans hs, he⟩

/-- A name that was emitted is not emitted again. -/
theorem Runs.once (h : Runs e t xs u) :
    xs.Pairwise fun x y => x.name = y.name → x.result.isOk → y.result.isOk = false := by
  induction h with
  | done => exact .nil
  | @call t u x xs hx hxs ih =>
    refine .cons (fun y hy hname hok => ?_) ih
    obtain ⟨s, hs, hy⟩ := hxs.of_mem hy
    cases hxr : x.result with
    | error err => rw [hxr] at hok; cases hok
    | ok a =>
      cases hyr : y.result with
      | error err => rfl
      | ok b =>
        rw [hxr] at hx
        rw [hyr] at hy
        obtain ⟨ha, hw⟩ := hx.targets_of_ok
        obtain ⟨hb, hw'⟩ := hy.targets_of_ok
        rw [hname, hb] at ha
        obtain rfl := Except.ok.inj ha
        have hl := hs.lookup (hw.there (b.canonical, _) List.mem_cons_self)
        obtain ⟨hr, he⟩ := FileTree.lookup_eq_ok_iff.1 hl
        have hnone := hw'.fresh List.mem_cons_self
        rw [FileTree.eq_place_of_resolve hr, hnone] at he
        cases he

/-- Both files of an emitted artifact stay as they were written. -/
theorem Runs.held (h : Runs e t xs u) {x : Emission} (hx : x ∈ xs) {a : Artifact}
    (ha : x.result = .ok a) : e.targets x.name = .ok a ∧
      ∀ v, x.after.Before v → v.Before u → ∀ p ∈ a.files,
        v.lookup p = .ok (p.place t.cwd, .file x.contents.toUTF8) := by
  induction h with
  | done => cases hx
  | call hy hxs ih =>
    obtain ⟨new, hgrows⟩ := hy.grows
    rcases List.mem_cons.1 hx with rfl | hx
    · rw [ha] at hy
      obtain ⟨htargets, hw⟩ := hy.targets_of_ok
      refine ⟨htargets, fun v hv hvu p hp => ?_⟩
      obtain ⟨new', hgrows'⟩ := hxs.grows
      obtain ⟨_, -, hg⟩ := hgrows'.until hv hvu
      exact hg.within.lookup (hw.there (p, _) (by simpa [Artifact.files] using hp))
    · rw [← hgrows.cwd]
      exact ih hx

/-- Over a run of calls nothing that was written changes, no name is emitted twice, both files of
an emitted artifact stay, and what lies below the counterpart root lies below the generated root. -/
theorem run_writesOnce (generated counterpart : Path) (extension : String)
    (calls : List (String × String)) (w : World) :
    let e := ofRoots generated counterpart extension
    let t := w.tree
    let xs := (e.run calls w).1
    let u := (e.run calls w).2.tree
    (t :: xs.map Emission.after ++ [u]).Pairwise FileTree.Before ∧
    (∀ v v', t.Before v → v.Before v' → v'.Before u → v.Within v') ∧
    (xs.Pairwise fun x y => x.name = y.name → x.result.isOk → y.result.isOk = false) ∧
    (∀ x ∈ xs, ∀ a, x.result = .ok a → e.targets x.name = .ok a ∧
      ∀ v, x.after.Before v → v.Before u → ∀ p ∈ a.files,
        v.lookup p = .ok (p.place t.cwd, .file x.contents.toUTF8)) ∧
    (¬generated.place t.cwd <+: counterpart.place t.cwd →
      ¬counterpart.place t.cwd <+: generated.place t.cwd →
      (∀ rel b, rel ≠ [] → t.get? (counterpart.place t.cwd ++ rel) ≠ some (.file b)) →
      ∀ v, t.Before v → v.Before u → ∀ rel b, rel ≠ [] →
        v.get? (counterpart.place t.cwd ++ rel) = some (.file b) →
        v.get? (generated.place t.cwd ++ rel) = some (.file b)) := by
  intro e t xs u
  have h : Runs e t xs u := runs_run e calls w
  obtain ⟨new, hgrows⟩ := h.grows
  refine ⟨h.ordered, fun v v' => hgrows.within_of_before, h.once, fun x hx a => h.held hx, ?_⟩
  · intro hg hm hempty v hv hvu rel b hrel hb
    obtain ⟨new, hgrows, hled⟩ := h.led hg hm
    obtain ⟨new', hpre, hgrows'⟩ := hgrows.until hv hvu
    refine hgrows'.get?_eq_some_iff.2 (.inr ?_)
    rcases hgrows'.get?_eq_some_iff.1 hb with hb | hb
    · exact absurd hb (hempty rel b hrel)
    · obtain ⟨before, after, rfl⟩ := List.append_of_mem hb
      obtain ⟨tail, rfl⟩ := hpre
      have := hled before rel b (after ++ tail) (by simp) hrel
      exact List.mem_append_left _ this

/-- The second call finds its file there, the third one a directory. -/
theorem run_writesOnce_three :
    let g : Path := ⟨"out"⟩
    let c : Path := ⟨"../mirror"⟩
    let w : World := { tree := ⟨[(["w"], .directory), (["mirror"], .directory)], ["w"]⟩ }
    let r := (ofRoots g c "").run [("a.B", "one"), ("a.B", "two"), ("a", "three")] w
    r.1.map (fun x => x.result.isOk) = [true, false, false] ∧
      r.2.tree.get? (c.place w.tree.cwd ++ ["a", "B"]) = some (.file "one".toUTF8) ∧
      r.2.tree.get? (g.place w.tree.cwd ++ ["a", "B"]) = some (.file "one".toUTF8) := by
  intro g c w r
  have hc : c.place w.tree.cwd = ["mirror"] := by decide +kernel
  have hg : g.place w.tree.cwd = ["w", "out"] := by decide +kernel
  have hthere : r.2.tree.get? (c.place w.tree.cwd ++ ["a", "B"]) = some (.file "one".toUTF8) := by
    decide +kernel
  have hempty : ∀ rel b, rel ≠ [] →
      w.tree.get? (c.place w.tree.cwd ++ rel) ≠ some (.file b) := by
    intro rel b hrel
    simp [FileTree.get?, hc, w, hrel]
  obtain ⟨-, -, -, -, hmirrored⟩ :=
    run_writesOnce g c "" [("a.B", "one"), ("a.B", "two"), ("a", "three")] w
  refine ⟨by decide +kernel, hthere, ?_⟩
  refine hmirrored ?_ ?_ hempty r.2.tree ?_ (FileTree.Before.refl _) _ _ (by simp) hthere
  · rw [hc, hg]; decide
  · rw [hc, hg]; decide
  · exact ⟨by decide +kernel, by decide +kernel⟩

end Emitter

end EndpointStubs
