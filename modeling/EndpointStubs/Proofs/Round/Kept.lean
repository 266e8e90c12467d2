import EndpointStubs.Processor
import EndpointStubs.Proofs.FileTree.Sound
import EndpointStubs.Proofs.Session

/-!
# What a round keeps

A round changes the tree by new directories and new files only, and reports between them what it
has done. What these steps keep of the world, the artifacts of the round keep. A property of the
tree is kept by the reports, thus by the whole round, and a sound tree stays sound.

    (p.processRound r).runOn w leaves a sound tree if w.tree is sound
-/

namespace EndpointStubs

open Session (Preserves Keeps)

/-! ## Properties of the world

A property that new directories, new files and any reports but the notes of a round keep. -/

section

variable {Q : World → Prop}
  (hdir : ∀ {w : World} {u : FileTree} {p : Path}, Q w → w.tree.createDirectory p = .ok u →
    Q { w with tree := u })
  (hfile : ∀ {w : World} {u : FileTree} {p : Path} {bytes : ByteArray}, Q w →
    w.tree.createFile p bytes = .ok u → Q { w with tree := u })
  (hreport : ∀ {w : World} {e : Event}, Q w → e.target ≠ "stubgen::diagnostics" →
    Q { w with events := w.events ++ [e] })

include hdir

theorem Emitter.preserves_makeParents (p : Path) : Preserves Q (makeParents p) := by
  unfold makeParents
  cases p.parent? with
  | none => exact Session.preserves_pure ()
  | some q =>
    intro w hw
    have hu : Q { w with tree := (w.tree.createDirectories q).2 } :=
      FileTree.createFirst_keeps (P := fun t => Q { w with tree := t })
        (fun _ _ t _ ht hu => hdir (w := { w with tree := t }) ht hu) hw
    simp only [Session.runOn_bind, Session.runOn_tree, Session.runOn_modify]
    exact Session.preserves_ofExcept _ _ _ hu

include hfile hreport

theorem Emitter.preserves_writeNew (p : Path) (contents : String) :
    Preserves Q (writeNew p contents) := by
  unfold writeNew
  refine (preserves_makeParents hdir p).bind fun _ => ?_
  refine (Session.preserves_change fun _ _ hw hu => hfile hw hu).bind fun _ => ?_
  have hreporter : reporter ≠ "stubgen::diagnostics" := by decide
  exact Session.preserves_report fun _ hw => hreport hw hreporter

theorem Emitter.preserves_emit (e : Emitter) (name contents : String) :
    Preserves Q (e.emit name contents) := by
  unfold emit
  refine Preserves.tryCatch ?_ fun err => ?_
  · unfold write
    refine (Session.preserves_ofExcept _ _).bind fun a => ?_
    refine (preserves_writeNew hdir hfile hreport a.canonical contents).bind fun _ => ?_
    refine (preserves_writeNew hdir hfile hreport a.counterpart contents).bind fun _ => ?_
    exact Session.preserves_pure a
  · have hreporter : reporter ≠ "stubgen::diagnostics" := by decide
    refine (Session.preserves_report fun _ hw => hreport hw hreporter).bind fun _ => ?_
    exact Session.preserves_throw err

theorem Processor.preserves_writeArtifact (p : Processor) (m : EndpointModel)
    (kind : ArtifactKind) : Preserves Q (p.writeArtifact m kind) := by
  unfold writeArtifact
  refine (Session.preserves_ofExcept _ _).bind fun text => ?_
  refine ((Emitter.preserves_emit hdir hfile hreport _ _ text).mapError _).bind fun a => ?_
  have hreporter : reporter ≠ "stubgen::diagnostics" := by decide
  refine (Session.preserves_report fun _ hw => hreport hw hreporter).bind fun _ => ?_
  exact Session.preserves_pure a

end

/-! ## Properties of the tree -/

section

variable {P : FileTree → Prop}
  (hdir : ∀ {t u : FileTree} {p : Path}, P t → t.createDirectory p = .ok u → P u)
  (hfile : ∀ {t u : FileTree} {p : Path} {bytes : ByteArray}, P t → t.createFile p bytes = .ok u →
    P u)

include hdir hfile

theorem Emitter.keeps_writeNew (p : Path) (contents : String) : Keeps P (writeNew p contents) :=
  preserves_writeNew (Q := fun w => P w.tree) hdir hfile (fun hw _ => hw) p contents

theorem Processor.keeps_writeArtifact (p : Processor) (m : EndpointModel) (kind : ArtifactKind) :
    Keeps P (p.writeArtifact m kind) :=
  preserves_writeArtifact (Q := fun w => P w.tree) hdir hfile (fun hw _ => hw) p m kind

/-- What new directories and new files keep, a round keeps. -/
theorem Processor.keeps_processRound (p : Processor) (r : Round) : Keeps P (p.processRound r) := by
  unfold processRound
  split
  · exact (Session.keepsTree_report _).keeps.bind fun _ => Session.keeps_pure _
  · refine Keeps.bind (fun _ hw => hw) fun _ => ?_
    refine (Session.keepsTree_report _).keeps.bind fun _ => ?_
    refine (Session.keeps_ofExcept _ _).bind fun _ => ?_
    exact (Session.keeps_mapM (keeps_writeArtifact hdir hfile p _) _).bind fun _ =>
      Session.keeps_pure _

end

/-- A round keeps a tree sound, however it ends. -/
theorem Processor.sound_processRound (p : Processor) (r : Round) {w : World} (h : w.tree.Sound) :
    ((p.processRound r).runOn w).2.tree.Sound :=
  keeps_processRound FileTree.Sound.createDirectory (fun ht hu => ht.createFile hu) p r w h

end EndpointStubs
