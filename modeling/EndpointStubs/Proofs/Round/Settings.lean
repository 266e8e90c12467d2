import EndpointStubs.Processor
import EndpointStubs.Proofs.Session

/-!
# The processor of settings

Building a processor only reads the tree, and nothing is built for roots that lead to the same
directory as far as components and the tree can tell.
-/

namespace EndpointStubs

namespace Overrides

open Session

theorem keepsTree_loadOne (dir : Path) (o : Overrides) (kind : ArtifactKind) :
    KeepsTree (loadOne dir o kind) := by
  unfold loadOne
  refine keepsTree_tree.bind fun t => ?_
  split
  · exact (keepsTree_report _).bind fun _ => keepsTree_pure o
  · refine (keepsTree_ask _ _).bind fun text => ?_
    split
    · exact keepsTree_throw _
    · exact (keepsTree_report _).bind fun _ => keepsTree_pure _

theorem keepsTree_load (dir : Path) : KeepsTree (load dir) := by
  unfold load
  refine keepsTree_tree.bind fun t => ?_
  split
  · exact keepsTree_throw _
  · exact keepsTree_foldlM (keepsTree_loadOne dir) _ _

end Overrides

namespace Processor

/-- Of roots that are not there only the components are compared. -/
theorem sameDirectory_of_not_pathExists {t : FileTree} {p q : Path} (h : t.pathExists p = false) :
    sameDirectory t p q = decide (p.components = q.components) := by
  obtain ⟨f, hf⟩ : ∃ f, t.canonicalize p = .error f := by
    unfold FileTree.canonicalize
    cases hl : t.lookup p with
    | ok x => simp [FileTree.pathExists, hl, Except.isOk, Except.toBool] at h
    | error f => exact ⟨f, rfl⟩
  simp [sameDirectory, Path.same, hf]

/-- Settings with roots apart and without templates always make a processor. -/
theorem runOn_ofConfig {c : Config} {w : World}
    (hs : sameDirectory w.tree c.generatedRoot c.counterpartRoot = false)
    (ht : c.templates = none) :
    (ofConfig c).runOn w =
      (.ok ⟨{}, .ofRoots c.generatedRoot c.counterpartRoot c.extension, c.policy⟩, w) := by
  unfold ofConfig
  simp only [Session.runOn_bind, Session.runOn_tree, hs, ht]
  rfl

/-- What the processor of settings is made of; the tree stays as it is. -/
theorem of_runOn_ofConfig {c : Config} {p : Processor} {w w' : World}
    (h : (ofConfig c).runOn w = (.ok p, w')) :
    p.emitter = .ofRoots c.generatedRoot c.counterpartRoot c.extension ∧ p.policy = c.policy ∧
      w'.tree = w.tree ∧ sameDirectory w.tree c.generatedRoot c.counterpartRoot = false := by
  unfold ofConfig at h
  rw [Session.runOn_bind, Session.runOn_tree] at h
  simp only at h
  by_cases hs : sameDirectory w.tree c.generatedRoot c.counterpartRoot = true
  · rw [if_pos hs] at h
    cases h
  · rw [if_neg hs] at h
    rw [Bool.not_eq_true] at hs
    cases ht : c.templates with
    | none =>
      rw [ht] at h
      obtain ⟨hp, rfl⟩ := Prod.mk.inj h
      obtain rfl := Except.ok.inj hp
      exact ⟨rfl, rfl, rfl, hs⟩
    | some dir =>
      have hkeeps := (Overrides.keepsTree_load dir).mapError ProcessError.template w
      rw [ht] at h
      obtain ⟨o, v, hload, h⟩ := Session.runOn_bind_eq_ok_iff.1 h
      rw [hload] at hkeeps
      obtain ⟨hp, rfl⟩ := Prod.mk.inj h
      obtain rfl := Except.ok.inj hp
      exact ⟨rfl, rfl, hkeeps, hs⟩

end Processor

end EndpointStubs
