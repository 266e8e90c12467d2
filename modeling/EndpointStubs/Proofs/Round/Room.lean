import EndpointStubs.Proofs.Emit.Written
import EndpointStubs.Proofs.FileTree.Replay
import EndpointStubs.Proofs.Round.Kept

/-!
# Room for a file

A file that a larger tree holds can be made in a part of that tree, if nothing is at its place: all
that can be missing are directories above it, and they are made first. The first file of a round is
there in the end if there is room for it, however the round goes on.

    x.Within v → v.lookup p = .ok (l, .file contents) → x.get? l = none → writeNew p contents succeeds
-/

namespace EndpointStubs

open FileTree (Wrote)

namespace Emitter

variable {v : FileTree} {p : Path} {contents : String}

theorem adds_createDirectory {t₀ t u : FileTree} {p : Path} (h : t₀.Within t)
    (hu : t.createDirectory p = .ok u) : t₀.Within u := by
  obtain ⟨hn, rfl, -⟩ := FileTree.createDirectory_eq_ok hu
  exact h.trans (FileTree.grows_insert hn _).within

theorem adds_createFile {t₀ t u : FileTree} {p : Path} {bytes : ByteArray} (h : t₀.Within t)
    (hu : t.createFile p bytes = .ok u) : t₀.Within u := by
  obtain ⟨hn, rfl, -⟩ := FileTree.createFile_eq_ok hu
  exact h.trans (FileTree.grows_insert hn _).within

/-- A file is only made for a path that ends in its name. -/
theorem exists_endsIn {w w' : World} (h : (writeNew p contents).runOn w = (.ok (), w')) :
    ∃ before name, p.EndsIn before name := by
  unfold writeNew at h
  obtain ⟨_, w₁, -, h⟩ := Session.runOn_bind_eq_ok_iff.1 h
  obtain ⟨_, w₂, h, -⟩ := Session.runOn_bind_eq_ok_iff.1 h
  rw [Session.runOn_change] at h
  cases hf : w₁.tree.createFile p contents.toUTF8 with
  | error f =>
    rw [hf] at h
    cases h
  | ok u =>
    obtain ⟨d, name, l, hpl, -, -⟩ := FileTree.createFile_eq_ok_iff.1 hf
    obtain ⟨before, tail, hfresh, -, hs⟩ := FileTree.freshAt_of_placeOf hpl
    have htail : tail = [] := by simpa using hs
    exact ⟨before, name, htail ▸ hfresh.body, hfresh.name_counts, hfresh.name_ne⟩

/-- The directories above a file of the whole can be made in a part. -/
theorem runOn_makeParents_within {before : List (List Char)} {name : List Char} {x : World}
    {l : Location} {e : Entry} (hp : p.EndsIn before name) (hdots : ['.', '.'] ∉ p.body)
    (hcwd : x.tree.get? x.tree.cwd = some .directory) (hw : x.tree.Within v)
    (hv : v.lookup p = .ok (l, e)) :
    ∃ x', (makeParents p).runOn x = (.ok (), x') ∧ x.tree.Wrote [] [p] x'.tree ∧
      x'.tree.Within v ∧ ∃ d, x'.tree.placeOf p = .ok (.fresh d name false) := by
  obtain ⟨qs, hqs⟩ := Path.parents_of_endsIn hp
  have hparent : p.parent? = some (p.upTo before) := by
    unfold Path.parent?
    rw [hqs]
    rfl
  have hr := (FileTree.lookup_eq_ok_iff.1 hv).1
  have hc := (FileTree.resolve_eq_ok_iff.1 hr).1
  have hmem : p.upTo before ∈ p.parents := hqs ▸ List.mem_cons_self
  have hq : (p.upTo before).text = "" ∨ v.isDirectory (p.upTo before) = true :=
    (Classical.em _).imp_right fun hne => FileTree.isDirectory_of_mem_parents hr hmem hne
  obtain ⟨u, hu, huv⟩ := FileTree.createFirst_within rfl hw hcwd (Path.ends_upTo hp hdots) hq
  have hqu := FileTree.createDirectories_eq_ok_iff (p.upTo before) x.tree
  have hwrote := wrote_createDirectories hparent x.tree
  unfold FileTree.createDirectories at hqu hwrote
  rw [hu] at hqu hwrote
  have hcwdu : u.get? u.cwd = some .directory := by
    rw [hwrote.within.cwd]
    exact hwrote.within.keeps _ _ hcwd
  refine ⟨{ x with tree := u }, ?_, hwrote, huv,
    FileTree.placeOf_of_parent hcwdu hp hc (hqu.1 rfl)⟩
  unfold makeParents
  rw [hparent]
  simp only [Session.runOn_bind, Session.runOn_tree, Session.runOn_modify,
    FileTree.createDirectories, hu]
  rfl

/-- There is room for a file that the whole holds and nothing is in place of. -/
theorem runOn_writeNew_within {before : List (List Char)} {name : List Char} {x : World}
    {l : Location} (hp : p.EndsIn before name) (hdots : ['.', '.'] ∉ p.body)
    (hcwd : x.tree.get? x.tree.cwd = some .directory) (hw : x.tree.Within v)
    (hv : v.lookup p = .ok (l, .file contents.toUTF8)) (hnone : x.tree.get? l = none) :
    ∃ x', (writeNew p contents).runOn x = (.ok (), x') ∧ x'.tree.Within v ∧
      x'.tree.lookup p = .ok (l, .file contents.toUTF8) := by
  obtain ⟨x₁, hx₁, hwrote, hx₁v, d, hpl⟩ := runOn_makeParents_within hp hdots hcwd hw hv
  -- Only directories were made, and the whole has a file at the place.
  have hnone₁ : x₁.tree.get? l = none := by
    refine Option.eq_none_iff_forall_ne_some.2 fun e he => ?_
    have hev := hx₁v.keeps _ _ he
    rw [(FileTree.lookup_eq_ok_iff.1 hv).2] at hev
    obtain rfl := Option.some.inj hev
    rcases hwrote.of_get? he with hold | ⟨f, hf, -⟩ | ⟨hd, -⟩
    · rw [hnone] at hold
      cases hold
    · cases hf
    · cases hd
  obtain ⟨u, hu, huv⟩ := FileTree.createFile_within hx₁v hp hv (by rw [hpl]; simp) hnone₁
  obtain ⟨x', hx', rfl⟩ : ∃ x', (writeNew p contents).runOn x = (.ok (), x') ∧ x'.tree = u := by
    unfold writeNew
    simp only [Session.runOn_bind, hx₁, Session.runOn_change, hu]
    exact ⟨_, rfl, rfl⟩
  refine ⟨x', hx', huv, ?_⟩
  have hwritten := written_writeNew p contents x
  rw [hx'] at hwritten
  cases hwritten with
  | done h =>
  have hthere := h.there (p, contents.toUTF8) (List.mem_singleton_self _)
  simp only at hthere
  rw [hthere, ← huv.lookup hthere, hv]

end Emitter

namespace Processor

variable {P : FileTree → Prop}
  (hdir : ∀ {t u : FileTree} {p : Path}, P t → t.createDirectory p = .ok u → P u)
  (hfile : ∀ {t u : FileTree} {p : Path} {bytes : ByteArray}, P t → t.createFile p bytes = .ok u →
    P u)
  {t : FileTree}

include hdir hfile

/-- What holds once the canonical file of an artifact is made holds in the end. -/
theorem of_writeNew_emit {e : Emitter} {name contents : String} {a : Artifact}
    (ha : e.targets name = .ok a)
    (hmade : ∀ w : World, w.tree = t → ∃ w',
      (Emitter.writeNew a.canonical contents).runOn w = (.ok (), w') ∧ P w'.tree)
    {w : World} (hw : w.tree = t) : P ((e.emit name contents).runOn w).2.tree := by
  obtain ⟨w', hw', hP⟩ := hmade w hw
  have hwrite : P ((e.write name contents).runOn w).2.tree := by
    unfold Emitter.write
    rw [ha, Session.runOn_bind, Session.runOn_ofExcept]
    simp only
    rw [Session.runOn_bind, hw']
    exact (Emitter.keeps_writeNew hdir hfile _ _).bind (fun _ => Session.keeps_pure a) w' hP
  unfold Emitter.emit
  rw [Session.runOn_tryCatch]
  generalize (e.write name contents).runOn w = r at hwrite
  obtain ⟨err | _, w''⟩ := r
  · exact hwrite
  · exact hwrite

/-- What holds once the first file of a round is made holds in the end. -/
theorem of_writeNew_processRound {p : Processor} {r : Round} {text : String} {a : Artifact}
    (hr : r.isEmpty = false) (hc : (scan r.declarations).check p.policy = .ok ())
    (htext : p.overrides.text (scan r.declarations) .stubBase = .ok text)
    (ha : p.emitter.targets (ArtifactKind.stubBase.nameIn (scan r.declarations)) = .ok a)
    (hmade : ∀ w : World, w.tree = t → ∃ w',
      (Emitter.writeNew a.canonical text).runOn w = (.ok (), w') ∧ P w'.tree)
    {w : World} (hw : w.tree = t) : P ((p.processRound r).runOn w).2.tree := by
  have hfirst : ∀ w : World, w.tree = t →
      P ((p.writeArtifact (scan r.declarations) .stubBase).runOn w).2.tree := by
    intro w hw
    have hemit := of_writeNew_emit hdir hfile ha hmade hw
    unfold writeArtifact
    rw [htext, Session.runOn_bind, Session.runOn_ofExcept]
    simp only
    rw [Session.runOn_bind, Session.runOn_mapError]
    generalize (p.emitter.emit _ text).runOn w = s at hemit
    obtain ⟨err | _, w'⟩ := s
    · exact hemit
    · exact hemit
  have hmapM : ∀ w : World, w.tree = t →
      P ((ArtifactKind.all.mapM (p.writeArtifact (scan r.declarations))).runOn w).2.tree := by
    intro w hw
    have hP := hfirst w hw
    have hall : ArtifactKind.all = [.stubBase, .stub] := rfl
    rw [hall, List.mapM_cons, Session.runOn_bind]
    generalize (p.writeArtifact (scan r.declarations) .stubBase).runOn w = s at hP
    obtain ⟨err | a₁, w'⟩ := s
    · exact hP
    · exact (Session.keeps_mapM (keeps_writeArtifact hdir hfile p _) _).bind
        (fun _ => Session.keeps_pure _) w' hP
  unfold processRound
  simp only [hr, Bool.false_eq_true, if_false, hc, Session.runOn_bind, Session.runOn_reportAll,
    Session.runOn_report, Session.runOn_ofExcept]
  generalize hw₁ : World.mk w.tree _ = w₁
  have hP := hmapM w₁ (by rw [← hw₁]; exact hw)
  generalize (ArtifactKind.all.mapM (p.writeArtifact (scan r.declarations))).runOn w₁ = s at hP
  obtain ⟨err | as, w'⟩ := s
  · exact hP
  · exact hP

end Processor

end EndpointStubs
