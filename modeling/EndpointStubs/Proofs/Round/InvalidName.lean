import EndpointStubs.Proofs.Round.Reached
import EndpointStubs.Proofs.Scan.ClosedForm
import EndpointStubs.Proofs.Source.Collected

/-!
# Names that become no path

A round that is collected from sources fails for the name of an artifact just if a word around its
last controller is not plain. The packages that files stand for were checked before, so only the
words inside the file count: modules, the type or trait around a function, and the controller.

    some module or owner is not plain        →  the base has no path
    only the controller itself is not plain  →  the base is written, and the stub has no path
-/

namespace EndpointStubs

/-! ## Plain words -/

namespace Syntax.Word

/-- No mark, and nothing but letters and numbers in any script and `_`. -/
def Plain (w : Word) : Prop :=
  w.raw = false ∧ ∀ c ∈ w.letters.toList, Unicode.isAlphanumeric c = true ∨ c = '_'

/-- The plain words are those that may be a part of a path. -/
theorem isSegment_text_iff (w : Word) : QualifiedName.isSegment w.text = true ↔ w.Plain := by
  have hne : w.text ≠ "" := w.text_ne_empty
  have hdollar : '$' ∉ w.text.toList := not_mem_text (by decide) (by decide) (by decide) w
  rw [toList_text] at hdollar
  simp only [QualifiedName.isSegment, hne, ne_eq, not_false_eq_true, decide_true, Bool.true_and,
    toList_text, List.all_append, Bool.and_eq_true, List.all_eq_true]
  constructor
  · rintro ⟨hmark, hletters⟩
    have hraw : w.raw = false := by
      cases hw : w.raw with
      | false => rfl
      | true =>
        rw [hw] at hmark
        exact absurd (hmark '#' (by simp)) (by decide +kernel)
    refine ⟨hraw, fun c hc => ?_⟩
    have hchar := hletters c hc
    have hc' : c ≠ '$' := by
      rintro rfl
      exact hdollar (List.mem_append_right _ hc)
    simpa [QualifiedName.isSegmentChar, hc'] using hchar
  · rintro ⟨hraw, hletters⟩
    rw [hraw]
    refine ⟨by simp, fun c hc => ?_⟩
    rcases hletters c hc with h | h <;> simp [QualifiedName.isSegmentChar, h]

end Syntax.Word

/-! ## Segments of derived names -/

namespace Source

open QualifiedName

theorem segments_packageName {names : List String} (hne : names ≠ [])
    (h : ∀ n ∈ names, '.' ∉ n.toList) : segments (packageName names) = names := by
  have hjoin : Text.pieces '.' (Text.join ['.'] (names.map String.toList)) =
      names.map String.toList := by
    refine Text.pieces_join (by simpa using hne) fun p hp => ?_
    obtain ⟨n, hn, rfl⟩ := List.mem_map.1 hp
    exact h n hn
  have hsep : ".".toList = ['.'] := rfl
  rw [segments, Text.splitString, packageName, Text.joinStrings, String.toList_ofList, hsep, hjoin]
  simp

/-- A name in the scope of a site is made of the scope and itself. -/
theorem segments_qualify_scopeIn {package : List String} {s : Site} {d : Declaration}
    (h : Declares package s d) {name : String} (hname : '.' ∉ name.toList) :
    segments (qualify (packageName (s.scopeIn package)) name) = s.scopeIn package ++ [name] := by
  have hp : ∀ n ∈ package, n ≠ "" := fun n hn => ne_empty_of_isSegment (h.segments n hn)
  rw [Site.scopeIn, qualify_packageName (ne_empty_of_mem_scope hp _)]
  refine segments_packageName (by simp) fun n hn => ?_
  rcases List.mem_append.1 hn with hn | hn
  · rcases List.mem_append.1 hn with hn | hn
    · exact dot_not_mem_of_isSegment (h.segments n hn)
    · obtain ⟨w, -, rfl⟩ := List.mem_map.1 hn
      exact w.dot_not_mem_text
  · rw [List.mem_singleton.1 hn]
    exact hname

/-- The package of a file was checked, so only the words inside the file count. -/
theorem all_isSegment_scopeIn {package : List String} {s : Site} {d : Declaration}
    (h : Declares package s d) (names : List String) :
    (s.scopeIn package ++ names).all isSegment = true ↔
      (∀ w ∈ s.scope, w.Plain) ∧ names.all isSegment = true := by
  have hpackage : package.all isSegment = true := List.all_eq_true.2 h.segments
  have hscope : (s.scope.map Syntax.Word.text).all isSegment = true ↔ ∀ w ∈ s.scope, w.Plain := by
    rw [List.all_map, List.all_eq_true]
    exact forall₂_congr fun w _ => w.isSegment_text_iff
  rw [Site.scopeIn, List.all_append, List.all_append, hpackage, Bool.true_and, Bool.and_eq_true,
    hscope]

end Source

/-! ## Which failures are for a name -/

namespace Emitter

variable {name contents n : String} {w : World}

/-- Making a file never fails for a name. -/
theorem writeNew_ne_invalidName (p : Path) (contents n : String) (w : World) :
    ((writeNew p contents).runOn w).1 ≠ .error (.invalidName n) := by
  have hparents := (runOn_makeParents p w).2
  unfold writeNew
  rw [Session.runOn_bind]
  generalize (makeParents p).runOn w = r at hparents
  obtain ⟨r, v⟩ := r
  rcases hparents with rfl | ⟨q, f, rfl, -⟩
  · simp only [Session.runOn_bind, Session.runOn_change]
    cases v.tree.createFile p contents.toUTF8 with
    | ok u => simp
    | error f => cases f <;> simp [creationError]
  · simp

/-- Emitting fails for a name just if the name has no path. -/
theorem emit_eq_invalidName_iff {e : Emitter} :
    ((e.emit name contents).runOn w).1 = .error (.invalidName n) ↔
      e.targets name = .error (.invalidName n) := by
  have hwrite : ((e.emit name contents).runOn w).1 = ((e.write name contents).runOn w).1 := by
    unfold emit
    rw [Session.runOn_tryCatch]
    generalize (e.write name contents).runOn w = r
    obtain ⟨err | a, v⟩ := r
    · simp only [Session.runOn_bind, Session.runOn_report, Session.runOn_throw]
    · rfl
  rw [hwrite]
  unfold write
  rw [Session.runOn_bind, Session.runOn_ofExcept]
  cases e.targets name with
  | error err => simp
  | ok a =>
    simp only [reduceCtorEq, iff_false]
    have hcanonical := writeNew_ne_invalidName a.canonical contents n w
    rw [Session.runOn_bind]
    generalize (writeNew a.canonical contents).runOn w = r at hcanonical
    obtain ⟨err | _, v⟩ := r
    · exact fun heq => hcanonical (congrArg Except.error (Except.error.inj heq))
    · have hcounterpart := writeNew_ne_invalidName a.counterpart contents n v
      simp only [Session.runOn_bind]
      generalize (writeNew a.counterpart contents).runOn v = r at hcounterpart
      obtain ⟨err | _, v'⟩ := r
      · exact fun heq => hcounterpart (congrArg Except.error (Except.error.inj heq))
      · simp

end Emitter

namespace Processor

variable {p : Processor} {r : Round} {m : EndpointModel} {kind : ArtifactKind} {n : String}
  {w : World}

/-- An artifact is refused for its name exactly if some segment is none. -/
theorem writeArtifact_eq_invalidName_iff (h : p.overrides.template? kind = none) :
    ((p.writeArtifact m kind).runOn w).1 = .error (.emit (.invalidName n)) ↔
      n = kind.nameIn m ∧
        ¬(QualifiedName.segments (kind.nameIn m)).all QualifiedName.isSegment = true := by
  have htext : p.overrides.text m kind = .ok (kind.builtinText m) := by rw [Overrides.text, h]
  have hemit : ((p.emitter.emit (kind.nameIn m) (kind.builtinText m)).runOn w).1 =
      .error (.invalidName n) ↔ n = kind.nameIn m ∧
        ¬(QualifiedName.segments (kind.nameIn m)).all QualifiedName.isSegment = true :=
    Emitter.emit_eq_invalidName_iff.trans Emitter.targets_eq_invalidName_iff
  rw [← hemit]
  unfold writeArtifact
  rw [htext, Session.runOn_bind, Session.runOn_ofExcept]
  simp only [Session.runOn_bind, Session.runOn_mapError]
  generalize (p.emitter.emit (kind.nameIn m) (kind.builtinText m)).runOn w = res
  obtain ⟨err | a, v⟩ := res
  · simp
  · simp

/-- The world in which the artifacts of a round are written: what was reported before is its
model. -/
def announced (r : Round) (w : World) : World :=
  { w with events := w.events ++ r.declarations.flatMap (Declaration.scanEvents .info) ++
      [.note .info (writingNote (scan r.declarations))] }

/-- Processing a round fails for a name if the base does, or the stub after the base is written. -/
theorem processRound_eq_invalidName_iff_writeArtifact :
    ((p.processRound r).runOn w).1 = .error (.emit (.invalidName n)) ↔
      r.isEmpty = false ∧ (scan r.declarations).check p.policy = .ok () ∧
        (((p.writeArtifact (scan r.declarations) .stubBase).runOn (announced r w)).1 =
            .error (.emit (.invalidName n)) ∨
          ∃ a v, (p.writeArtifact (scan r.declarations) .stubBase).runOn (announced r w) =
              (.ok a, v) ∧
            ((p.writeArtifact (scan r.declarations) .stub).runOn v).1 =
              .error (.emit (.invalidName n))) := by
  unfold processRound
  by_cases hr : r.isEmpty = true
  · simp only [hr, if_true, Session.runOn_bind, Session.runOn_report, Session.runOn_pure,
      reduceCtorEq, Bool.true_eq_false, false_and]
  · rw [Bool.not_eq_true] at hr
    simp only [hr, Bool.false_eq_true, if_false, Session.runOn_bind, Session.runOn_report,
      Session.runOn_pure, Session.runOn_reportAll, Session.runOn_ofExcept, true_and]
    cases hc : (scan r.declarations).check p.policy with
    | error err => simp
    | ok x =>
      have hall : ArtifactKind.all = [.stubBase, .stub] := rfl
      simp only [true_and, hall, List.mapM_cons, List.mapM_nil, Session.runOn_bind,
        Session.runOn_pure, announced]
      generalize (p.writeArtifact (scan r.declarations) .stubBase).runOn _ = res
      obtain ⟨err | a, v⟩ := res
      · simp
      · simp only [reduceCtorEq, false_or, Prod.mk.injEq, Except.ok.injEq]
        have hstub : (∃ b v', (a = b ∧ v = v') ∧
            ((p.writeArtifact (scan r.declarations) .stub).runOn v').1 =
              .error (.emit (.invalidName n))) ↔
            ((p.writeArtifact (scan r.declarations) .stub).runOn v).1 =
              .error (.emit (.invalidName n)) :=
          ⟨fun ⟨_, _, ⟨rfl, rfl⟩, h⟩ => h, fun h => ⟨a, v, ⟨rfl, rfl⟩, h⟩⟩
        rw [hstub]
        generalize (p.writeArtifact (scan r.declarations) .stub).runOn v = res
        obtain ⟨err | b, v'⟩ := res <;> simp

/-! ## Rounds of sources -/

/-- The name of a model without controller is valid, whatever else it holds. -/
theorem all_isSegment_of_no_controller {ds : List Declaration}
    (h : (controllers ds).getLast? = none) (kind : ArtifactKind) :
    (QualifiedName.segments (kind.nameIn (scan ds))).all QualifiedName.isSegment = true := by
  rw [scan_eq_of_lists]
  cases kind with
  | stubBase =>
    have hname : ArtifactKind.stubBase.nameIn (.ofLast (controllers ds) (getRoutes ds)) =
        "StubBase" := by
      simp [ArtifactKind.nameIn, EndpointModel.stubBaseFullName, EndpointModel.packageName,
        EndpointModel.ofLast, h, QualifiedName.qualify, EndpointModel.stubBaseName]
    rw [hname]
    decide +kernel
  | stub =>
    have hname : ArtifactKind.stub.nameIn (.ofLast (controllers ds) (getRoutes ds)) = "Stub" := by
      simp [ArtifactKind.nameIn, EndpointModel.stubName, EndpointModel.stubClassName,
        EndpointModel.packageName, EndpointModel.ofLast, h, QualifiedName.qualify,
        EndpointModel.stubSuffix]
    rw [hname]
    decide +kernel

/-- A declaration from a source has its scope as package and its word as simple name. -/
theorem split_of_declares {d : Declaration} {package : List String} {s : Source.Site}
    (h : Source.Declares package s d) : QualifiedName.split d.name =
      (Source.packageName (s.scopeIn package), s.identifier.text) := by
  rw [h.eq]
  exact Source.split_packageName _ s.identifier.dot_not_mem_text

section
variable {ds : List Declaration} {d : Declaration} {package : List String} {s : Source.Site}
  (hd : (controllers ds).getLast? = some d) (h : Source.Declares package s d)
include hd h

/-- The base has a path just if the scope of the last controller is plain. -/
theorem all_isSegment_stubBase :
    (QualifiedName.segments (ArtifactKind.stubBase.nameIn (scan ds))).all
      QualifiedName.isSegment = true ↔ ∀ w ∈ s.scope, w.Plain := by
  have hname : ArtifactKind.stubBase.nameIn (scan ds) =
      QualifiedName.qualify (Source.packageName (s.scopeIn package)) "StubBase" := by
    rw [scan_eq_of_lists]
    simp [ArtifactKind.nameIn, EndpointModel.stubBaseFullName, EndpointModel.packageName,
      EndpointModel.ofLast, hd, split_of_declares h, EndpointModel.stubBaseName]
  rw [hname, Source.segments_qualify_scopeIn h (by decide), Source.all_isSegment_scopeIn h]
  exact and_iff_left (by decide +kernel)

/-- The stub has a path just if the base has one and the controller is plain. -/
theorem all_isSegment_stub :
    (QualifiedName.segments (ArtifactKind.stub.nameIn (scan ds))).all
      QualifiedName.isSegment = true ↔ (∀ w ∈ s.scope, w.Plain) ∧ s.identifier.Plain := by
  have hname : ArtifactKind.stub.nameIn (scan ds) = QualifiedName.qualify
      (Source.packageName (s.scopeIn package)) (s.identifier.text ++ "Stub") := by
    rw [scan_eq_of_lists]
    simp [ArtifactKind.nameIn, EndpointModel.stubName, EndpointModel.stubClassName,
      EndpointModel.packageName, EndpointModel.ofLast, hd, split_of_declares h,
      EndpointModel.stubSuffix]
  have hdot : '.' ∉ (s.identifier.text ++ "Stub").toList := by
    simpa using s.identifier.dot_not_mem_text
  have hsuffix : "Stub".toList.all QualifiedName.isSegmentChar = true := by decide +kernel
  have hsegment : QualifiedName.isSegment (s.identifier.text ++ "Stub") = true ↔
      s.identifier.Plain := by
    have hne : s.identifier.text ≠ "" := s.identifier.text_ne_empty
    have hne' : s.identifier.text ++ "Stub" ≠ "" := by simp
    rw [← s.identifier.isSegment_text_iff]
    simp only [QualifiedName.isSegment, String.toList_append, List.all_append, hsuffix,
      Bool.and_true, hne, hne', ne_eq, not_false_eq_true]
  rw [hname, Source.segments_qualify_scopeIn h hdot, Source.all_isSegment_scopeIn h,
    List.all_cons, List.all_nil, Bool.and_true, hsegment]

end

/-- **Which rounds of sources fail for a name.** Those that pass their policy, and whose last
controller stands in a module, or in a trait or type, that is not plain, or is not plain itself;
then the base comes first, and any failure of the base comes before that of the name. -/
theorem processRound_fails_for_name {o : Origins} {r : Round} {w w' : World}
    (ho : o.manifests = []) (hr : o.collect.runOn w = (.ok r, w')) {p : Processor}
    (hp : ∀ kind, p.overrides.template? kind = none) (v : World) :
    (∃ name, ((p.processRound r).runOn v).1 = .error (.emit (.invalidName name))) ↔
      r.isEmpty = false ∧ (scan r.declarations).check p.policy = .ok () ∧
        ∃ d package s, (controllers r.declarations).getLast? = some d ∧
          Source.Declares package s d ∧
          ((∃ x ∈ s.scope, ¬x.Plain) ∨ ¬s.identifier.Plain ∧ ∃ a v',
            (p.writeArtifact (scan r.declarations) .stubBase).runOn (announced r v) =
              (.ok a, v')) := by
  simp only [processRound_eq_invalidName_iff_writeArtifact,
    writeArtifact_eq_invalidName_iff (hp _)]
  cases hd : (controllers r.declarations).getLast? with
  | none =>
    have hbase := all_isSegment_of_no_controller hd .stubBase
    have hstub := all_isSegment_of_no_controller hd .stub
    simp [hbase, hstub]
  | some d =>
    have hmem : d ∈ r.declarations :=
      (List.mem_filter.1 (List.mem_of_getLast? hd)).1
    obtain ⟨package, s, hs⟩ := Origins.exists_declares ho hr hmem
    constructor
    · rintro ⟨n, hmarked, hcheck, ⟨-, hbase⟩ | ⟨a, v', hwritten, -, hstub⟩⟩
      · rw [all_isSegment_stubBase hd hs] at hbase
        push Not at hbase
        exact ⟨hmarked, hcheck, d, package, s, rfl, hs, .inl hbase⟩
      · rw [all_isSegment_stub hd hs] at hstub
        by_cases hscope : ∀ x ∈ s.scope, x.Plain
        · have hidentifier : ¬s.identifier.Plain := fun h => hstub ⟨hscope, h⟩
          exact ⟨hmarked, hcheck, d, package, s, rfl, hs, .inr ⟨hidentifier, a, v', hwritten⟩⟩
        · push Not at hscope
          exact ⟨hmarked, hcheck, d, package, s, rfl, hs, .inl hscope⟩
    · rintro ⟨hmarked, hcheck, d', package', s', hd', hs', hbad⟩
      obtain rfl := Option.some.inj hd'
      rcases hbad with ⟨x, hx, hplain⟩ | ⟨hplain, a, v', hwritten⟩
      · refine ⟨_, hmarked, hcheck, .inl ⟨rfl, fun hbase => ?_⟩⟩
        exact hplain ((all_isSegment_stubBase hd hs').1 hbase x hx)
      · refine ⟨_, hmarked, hcheck, .inr ⟨a, v', hwritten, rfl, fun hstub => ?_⟩⟩
        exact hplain ((all_isSegment_stub hd hs').1 hstub).2

def sourceTree (name text : String) : FileTree :=
  ⟨[(["w"], .directory), (["w", "src"], .directory),
    (["w", "src", name], .file text.toUTF8)], ["w"]⟩

/-- A controller in a module whose name has the mark of raw words. -/
theorem processRound_fails_for_module :
    let o : Origins := { sources := [⟨"src"⟩] }
    let w : World :=
      { tree := sourceTree "lib.rs" "mod r#in \x7b #[rest_controller] struct A; \x7d" }
    let r : Round := .ofDeclarations
      [{ name := "r#in.A", markers := [{ kind := .restController }] }]
    let p : Processor := ⟨{}, .ofRoots ⟨"out"⟩ ⟨"mirror"⟩ "rs", .lenient⟩
    o.manifests = [] ∧ (∀ kind, p.overrides.template? kind = none) ∧
      (∃ w', o.collect.runOn w = (.ok r, w')) ∧
      ∃ name, ((p.processRound r).runOn w).1 = .error (.emit (.invalidName name)) := by
  intro o w r p
  have hp : ∀ kind, p.overrides.template? kind = none := by rintro (_ | _) <;> rfl
  obtain ⟨w', hr⟩ : ∃ w', o.collect.runOn w = (.ok r, w') :=
    Session.exists_runOn_of_toOption (by decide +kernel)
  let inner : Syntax.Word := (Syntax.Word.of "in").asRaw
  let s : Source.Site := .ofType [inner] [{ name := "rest_controller", args := .none }] (.of "A")
  have hs : Source.Declares [] s { name := "r#in.A", markers := [{ kind := .restController }] } :=
    ⟨nofun, by decide +kernel, by decide +kernel⟩
  have hinner : inner ∈ s.scope := List.mem_cons_self
  have hraw : ¬inner.Plain := fun h => Bool.noConfusion h.1
  have hmarked : r.isEmpty = false := by decide +kernel
  have hcheck : (scan r.declarations).check p.policy = .ok () := by rfl
  have hlast : (controllers r.declarations).getLast? =
      some { name := "r#in.A", markers := [{ kind := .restController }] } := by decide +kernel
  have hfails := processRound_fails_for_name rfl hr hp w
  exact ⟨rfl, hp, ⟨w', hr⟩,
    hfails.2 ⟨hmarked, hcheck, _, [], s, hlast, hs, .inl ⟨inner, hinner, hraw⟩⟩⟩

/-- A controller whose own name has the mark: its base is written when the stub fails. -/
theorem processRound_fails_after_base :
    let o : Origins := { sources := [⟨"src"⟩] }
    let w : World := { tree := sourceTree "lib.rs" "#[rest_controller] struct r#type;" }
    let r : Round := .ofDeclarations
      [{ name := "r#type", markers := [{ kind := .restController }] }]
    let p : Processor := ⟨{}, .ofRoots ⟨"out"⟩ ⟨"mirror"⟩ "rs", .lenient⟩
    (∃ w', o.collect.runOn w = (.ok r, w')) ∧
      ((p.processRound r).runOn w).1 = .error (.emit (.invalidName "r#typeStub")) ∧
      ((p.processRound r).runOn w).2.tree.isFile ⟨"out/StubBase.rs"⟩ = true := by
  intro o w r p
  have hr : ∃ w', o.collect.runOn w = (.ok r, w') :=
    Session.exists_runOn_of_toOption (by decide +kernel)
  have hresult : ((p.processRound r).runOn w).1.map (fun _ => ()) =
      .error (.emit (.invalidName "r#typeStub")) := by
    decide +kernel
  refine ⟨hr, ?_, by decide +kernel⟩
  generalize ((p.processRound r).runOn w).1 = result at hresult
  cases result with
  | ok report => cases hresult
  | error err =>
    obtain rfl := Except.error.inj hresult
    rfl

end Processor

end EndpointStubs
