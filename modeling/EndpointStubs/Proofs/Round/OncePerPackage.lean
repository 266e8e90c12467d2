import EndpointStubs.Proofs.Round.Reached
import EndpointStubs.Proofs.Round.Room

/-!
# One round per package

The stubs of a package share one base, which is the first file of a round. A round that succeeds
leaves this file, and as long as nothing is removed the next round for the same package stops at it,
before it has made anything. What happens in between cannot help: other rounds only add files, and
a file that somebody changes is still a file.

    (p.processRound r).runOn w = (.ok report, w₁) → Later w₁ w₂ → r and s are for one package →
      (p.processRound s).runOn w₂ is refused, with the tree of w₂
-/

namespace EndpointStubs

/-! ## Writing at the path of a file -/

namespace Emitter

variable {p : Path} {l : Location} {b : ByteArray} {w : World}

theorem runOn_makeParents_of_lookup {e : Entry} (h : w.tree.lookup p = .ok (l, e)) :
    (makeParents p).runOn w = (.ok (), w) := by
  unfold makeParents
  cases hparent : p.parent? with
  | none => rfl
  | some q =>
    have hmem : q ∈ p.parents := List.mem_of_mem_head? hparent
    have hthere : q.text = "" ∨ w.tree.isDirectory q = true :=
      (Classical.em _).imp_right fun hne =>
        FileTree.isDirectory_of_mem_parents (FileTree.lookup_eq_ok_iff.1 h).1 hmem hne
    simp only [Session.runOn_bind, Session.runOn_tree, Session.runOn_modify,
      FileTree.createDirectories_of_there hthere]
    rfl

/-- A file is in the way of a new one, and not even a directory is made. -/
theorem runOn_writeNew_of_file (h : w.tree.lookup p = .ok (l, .file b)) (contents : String) :
    (writeNew p contents).runOn w = (.error (.collision p), w) := by
  have hfile : w.tree.createFile p contents.toUTF8 = .error .alreadyExists :=
    FileTree.createFile_of_pathExists (FileTree.pathExists_iff.2 ⟨l, _, h⟩)
      (FileTree.namesDirectory_of_lookup_file h) _
  unfold writeNew
  simp only [Session.runOn_bind, runOn_makeParents_of_lookup h, Session.runOn_change, hfile,
    creationError]

/-- A file in the canonical place is a collision, and nothing changes. -/
theorem runOn_emit_of_file {e : Emitter} {name : String} {a : Artifact}
    (ha : e.targets name = .ok a) (h : w.tree.lookup a.canonical = .ok (l, .file b))
    (contents : String) :
    ((e.emit name contents).runOn w).1 = .error (.collision a.canonical) ∧
      ((e.emit name contents).runOn w).2.tree = w.tree := by
  have hwrite : (e.write name contents).runOn w = (.error (.collision a.canonical), w) := by
    unfold write
    rw [ha, Session.runOn_bind, Session.runOn_ofExcept]
    simp only [Session.runOn_bind, runOn_writeNew_of_file h]
  unfold emit
  rw [Session.runOn_tryCatch, hwrite]
  exact ⟨rfl, rfl⟩

end Emitter

/-! ## Later worlds -/

/-- What may become of a world as long as nothing is removed: rounds are run, for whatever
processors and however they end, and somebody else adds to the tree or changes what files hold. -/
inductive World.Later (w : World) : World → Prop
  | now : Later w w
  | round {v : World} (p : Processor) (r : Round) :
      Later w v → Later w ((p.processRound r).runOn v).2
  | change {v v' : World} : Later w v → v.tree.Retains v'.tree → Later w v'

/-- A round only adds to the tree. -/
theorem Processor.within_processRound (p : Processor) (r : Round) (w : World) :
    w.tree.Within ((p.processRound r).runOn w).2.tree :=
  keeps_processRound Emitter.adds_createDirectory Emitter.adds_createFile p r w (.refl _)

theorem World.Later.retains {w v : World} (h : w.Later v) : w.tree.Retains v.tree := by
  induction h with
  | now => exact (FileTree.Within.refl _).retains
  | round p r _ ih => exact ih.trans (p.within_processRound r _).retains
  | change _ hv ih => exact ih.trans hv

/-! ## The base of a package -/

namespace ArtifactKind

variable {m n : EndpointModel} (h : m.packageName = n.packageName)

include h

theorem nameIn_stubBase_eq : stubBase.nameIn m = stubBase.nameIn n := by
  simp only [nameIn, EndpointModel.stubBaseFullName, h]

/-- The base says nothing about a model but its package. -/
theorem text_stubBase_eq (o : Overrides) : o.text m .stubBase = o.text n .stubBase := by
  have hdata : BaseData.ofModel m = BaseData.ofModel n := congrArg BaseData.mk h
  unfold Overrides.text
  simp only [builtinText, fields, hdata]

end ArtifactKind

namespace Processor

variable {p : Processor} {m : EndpointModel} {r : Round} {w w' : World}

/-- A round that succeeds has a text and a path for the base, and leaves a file at the path. -/
theorem exists_base_of_processRound {report : Report}
    (h : (p.processRound r).runOn w = (.ok report, w')) (hm : report.model? = some m) :
    ∃ text a l b, p.overrides.text m .stubBase = .ok text ∧
      p.emitter.targets (ArtifactKind.stubBase.nameIn m) = .ok a ∧
      w'.tree.lookup a.canonical = .ok (l, .file b) := by
  obtain ⟨-, v, as, hall, rfl⟩ := written_of_processRound (isEmpty_of_model? h hm) h
  obtain rfl := Option.some.inj hm
  rw [ArtifactKind.all, List.mapM_cons] at hall
  obtain ⟨a, v₁, hbase, hrest⟩ := Session.runOn_bind_eq_ok_iff.1 hall
  have htried := tried_writeArtifact p (scan r.declarations) .stubBase v
  rw [hbase] at htried
  have hadds : v₁.tree.Within w'.tree := by
    have hkeeps := ((Session.keeps_mapM (keeps_writeArtifact Emitter.adds_createDirectory
      Emitter.adds_createFile p (scan r.declarations)) [.stub]).bind
      fun as => Session.keeps_pure (a :: as)) v₁ (.refl v₁.tree)
    rwa [hrest] at hkeeps
  cases htried with
  | @done text _ _ htext he =>
  obtain ⟨ha, hwrote⟩ := he.targets_of_ok
  have hthere := hwrote.there (a.canonical, text.toUTF8) List.mem_cons_self
  exact ⟨text, a, _, _, htext, ha, hadds.lookup hthere⟩

/-- A round for a package whose base is a file stops at the base, or at the policy before it, and
makes nothing. -/
theorem processRound_of_base {text : String} {a : Artifact} {l : Location} {b : ByteArray}
    (hr : r.isEmpty = false)
    (htext : p.overrides.text (scan r.declarations) .stubBase = .ok text)
    (ha : p.emitter.targets (ArtifactKind.stubBase.nameIn (scan r.declarations)) = .ok a)
    (hfile : w.tree.lookup a.canonical = .ok (l, .file b)) :
    ((p.processRound r).runOn w).1 =
        (match (scan r.declarations).check p.policy with
        | .ok () => .error (.emit (.collision a.canonical))
        | .error e => .error (.incomplete e)) ∧
      ((p.processRound r).runOn w).2.tree = w.tree := by
  obtain ⟨v, hv, hrun⟩ := runOn_processRound_of_marked (p := p) hr w
  rw [hrun]
  cases (scan r.declarations).check p.policy with
  | error e => exact ⟨rfl, hv⟩
  | ok x =>
    have hemit := Emitter.runOn_emit_of_file ha (hv ▸ hfile) text
    rw [ArtifactKind.all, List.mapM_cons]
    unfold writeArtifact
    simp only [htext, Session.runOn_bind, Session.runOn_ofExcept, Session.runOn_mapError]
    generalize (p.emitter.emit _ text).runOn v = y at hemit
    obtain ⟨z, v'⟩ := y
    obtain ⟨rfl, htree⟩ := hemit
    exact ⟨rfl, htree.trans hv⟩

/-- For each package there is at most one round. After a round that has succeeded, whatever else
happens as long as nothing is removed, a round with markers whose model has the same package is
refused, by the policy or because the base of the package is there already, and changes nothing. -/
theorem processRound_once_per_package {w w₁ w₂ : World} {r s : Round} {report : Report}
    (hok : (p.processRound r).runOn w = (.ok report, w₁)) (hmodel : report.model? = some m)
    (hlater : w₁.Later w₂) (hs : s.isEmpty = false)
    (hpackage : (scan s.declarations).packageName = m.packageName) :
    ∃ base, p.emitter.layout.path
        (QualifiedName.qualify m.packageName EndpointModel.stubBaseName) = .ok base ∧
      ((p.processRound s).runOn w₂).1 =
        (match (scan s.declarations).check p.policy with
        | .ok () => .error (.emit (.collision base))
        | .error e => .error (.incomplete e)) ∧
      ((p.processRound s).runOn w₂).2.tree = w₂.tree := by
  obtain ⟨text, a, l, b, htext, ha, hfile⟩ := exists_base_of_processRound hok hmodel
  obtain ⟨b', hfile'⟩ := hlater.retains.lookup_file hfile
  have hcanonical : p.emitter.layout.path (ArtifactKind.stubBase.nameIn m) = .ok a.canonical := by
    obtain ⟨-, hpath, -⟩ := Emitter.targets_eq_ok_iff.1 ha
    exact hpath
  rw [← ArtifactKind.text_stubBase_eq hpackage] at htext
  rw [← ArtifactKind.nameIn_stubBase_eq hpackage] at ha
  exact ⟨a.canonical, hcanonical, processRound_of_base hs htext ha hfile'⟩

/-- Two controllers of one package; a round for another package is run in between. -/
theorem processRound_once_for_acme :
    let p : Processor := ⟨{}, .ofRoots ⟨"out"⟩ ⟨"mirror"⟩ "rs", .lenient⟩
    let w : World := { tree := ⟨[(["w"], .directory)], ["w"]⟩ }
    let r (name : String) : Round :=
      .ofDeclarations [{ name := name, markers := [{ kind := .restController }] }]
    let w₁ := ((p.processRound (r "com.acme.Order")).runOn w).2
    let w₂ := ((p.processRound (r "com.Shop")).runOn w₁).2
    ((p.processRound (r "com.acme.Order")).runOn w).1.toOption.bind Report.model? =
        some (scan (r "com.acme.Order").declarations) ∧
      ((p.processRound (r "com.acme.Item")).runOn w₂).1 =
        .error (.emit (.collision ⟨"out/com/acme/StubBase.rs"⟩)) ∧
      ((p.processRound (r "com.acme.Item")).runOn w₂).2.tree = w₂.tree := by
  intro p w r w₁ w₂
  have hmodel : ((p.processRound (r "com.acme.Order")).runOn w).1.toOption.bind Report.model? =
      some (scan (r "com.acme.Order").declarations) := by decide +kernel
  obtain ⟨report, hreport, hm⟩ := Option.bind_eq_some_iff.1 hmodel
  obtain ⟨v, h⟩ := Session.exists_runOn_of_toOption hreport
  obtain rfl : w₁ = v := congrArg Prod.snd h
  obtain ⟨base, hbase, hresult, htree⟩ := processRound_once_per_package h hm
    (.round p (r "com.Shop") .now : w₁.Later w₂) (s := r "com.acme.Item") (by decide +kernel)
    (by decide +kernel)
  have hpath : p.emitter.layout.path "com.acme.StubBase" =
      .ok ⟨"out/com/acme/StubBase.rs"⟩ := by decide +kernel
  obtain rfl := Except.ok.inj (hbase.symm.trans hpath)
  exact ⟨hmodel, hresult, htree⟩

end Processor

end EndpointStubs
