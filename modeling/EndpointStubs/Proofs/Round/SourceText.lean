import EndpointStubs.Proofs.Artifact.Accepted
import EndpointStubs.Proofs.Artifact.Literals
import EndpointStubs.Proofs.Model.Blank
import EndpointStubs.Proofs.Round.InvalidName
import EndpointStubs.Proofs.Syntax.Capital

/-!
# Stubs that are source text

A complete round of sources gives its stub a class with a name, and remarks that stay in their
lines, as both artifacts have paths. What is left to decide is taken over from the last handler:
its own name in capitals, and its response type, which is borrowed as it stands.

    fn list() -> Json<Order>    pub async fn List(&self, status: u16, response: &Json<Order>)
    fn ping()                   pub async fn Ping(&self, status: u16, response: &)
-/

namespace EndpointStubs

open Syntax

/-! ## Remarks -/

/-- A name with a path stays in its line. -/
theorem isRemark_of_segments {start name ending : String}
    (hname : (QualifiedName.segments name).all QualifiedName.isSegment = true)
    (hstart : start.toList.head? = some ' ')
    (hlines : ['\n', '\r'].all (fun c => !(start.toList ++ ending.toList).contains c) = true) :
    IsRemark (start ++ name ++ ending) := by
  have houtside {c : Char} (hc : c ∈ ['\n', '\r']) (hm : c ∈ start.toList ++ ending.toList) :
      False := by
    have hnot := List.all_eq_true.1 hlines c hc
    rw [List.contains_iff_mem.2 hm] at hnot
    cases hnot
  have hinside {c : Char} (hc : c ∈ ['\n', '\r']) (hm : c ∈ name.toList) : False := by
    have hnone : ['\n', '\r'].any (fun c => c = '.' || QualifiedName.isSegmentChar c) = false := by
      decide +kernel
    refine List.any_eq_false.1 hnone c hc ?_
    rcases QualifiedName.isSegmentChar_of_mem hname hm with rfl | hchar
    · rfl
    · rw [hchar, Bool.or_true]
  have hline {c : Char} (hc : c ∈ ['\n', '\r']) : c ∉ (start ++ name ++ ending).toList := by
    intro hm
    simp only [String.toList_append, List.mem_append] at hm
    rcases hm with (hm | hm) | hm
    · exact houtside hc (List.mem_append_left _ hm)
    · exact hinside hc hm
    · exact houtside hc (List.mem_append_right _ hm)
  have hhead : (start ++ name ++ ending).toList.head? = some ' ' := by
    simp [hstart]
  exact ⟨hline (by decide), hline (by decide), by rw [hhead]; decide, by rw [hhead]; decide⟩

/-! ## Names -/

/-- A class is named after a plain word. -/
theorem Syntax.Word.Plain.isName_stub {w : Word} (h : w.Plain) : IsName (w.text ++ "Stub") := by
  have htext : w.text = w.letters := by
    rw [Word.text, h.1]
    rfl
  refine ⟨?_, append_not_mem_keywords (by decide) _⟩
  rw [String.toList_append, htext]
  exact isWord_append w.legal (by decide)

namespace Processor

section
variable {ds : List Declaration} {d : Declaration} {package : List String} {s : Source.Site}
  (h : Source.Declares package s d)
include h

/-- The stub of a controller from a source is named after its type. -/
theorem stubClassName_of_declares (hd : (controllers ds).getLast? = some d) :
    (scan ds).stubClassName = s.identifier.text ++ "Stub" := by
  rw [scan_eq_of_lists]
  simp [EndpointModel.stubClassName, EndpointModel.ofLast, hd, split_of_declares h,
    EndpointModel.stubSuffix]

/-- The method of a route from a source is named after its function. -/
theorem methodName_of_declares (hd : (getRoutes ds).getLast? = some d) :
    (scan ds).methodName = Text.capitalize s.identifier.text := by
  rw [scan_eq_of_lists]
  simp [EndpointModel.methodName, EndpointModel.ofLast, hd, split_of_declares h]

end

/-- A complete model has a controller and a handler. -/
theorem exists_of_check_strict {ds : List Declaration} (h : (scan ds).check .strict = .ok ()) :
    (∃ c, (controllers ds).getLast? = some c) ∧ ∃ g, (getRoutes ds).getLast? = some g := by
  obtain ⟨hpackage, hroutes⟩ := (EndpointModel.check_strict_scan_eq_ok_iff ds).1 h
  have hcontrollers := EndpointModel.controllers_ne_nil_of_packageName ds hpackage
  constructor
  · exact ⟨_, List.getLast?_eq_some_getLast hcontrollers⟩
  · exact ⟨_, List.getLast?_eq_some_getLast hroutes⟩

/-- The stub of a round that is processed has parts with known token trees. -/
theorem legible_of_processRound {p : Processor} {m : EndpointModel} {w : Word}
    (hpaths : ∀ kind ∈ ArtifactKind.all, ∃ a, p.emitter.targets (kind.nameIn m) = .ok a)
    (hclass : IsName m.stubClassName) (hmethod : m.methodName = Text.capitalize w.text)
    {ts : List TokenTree} (hread : ReadsInParens ('&' :: m.responseType.toList) ts) :
    (StubData.ofModel m).Legible w.capitalTrees
      (w.append "WithStatus" (by decide)).capitalTrees ts := by
  have hsegments (kind : ArtifactKind) (hkind : kind ∈ ArtifactKind.all) :
      (QualifiedName.segments (kind.nameIn m)).all QualifiedName.isSegment = true := by
    obtain ⟨a, ha⟩ := hpaths kind hkind
    exact (Layout.path_eq_ok_iff.1 (Emitter.targets_eq_ok_iff.1 ha).2.1).1
  refine ⟨hclass, ?_, ?_, hread, ?_, ?_⟩
  · have hspells := w.spells_capital
    rwa [← hmethod] at hspells
  · have hspells := (w.append "WithStatus" (by decide)).spells_capital
    rw [Word.text_append, capitalize_append w.text_ne_empty, ← hmethod] at hspells
    exact hspells
  · exact isRemark_of_segments (hsegments .stub (by decide)) (by decide) (by decide)
  · exact isRemark_of_segments (hsegments .stubBase (by decide)) (by decide) (by decide)

/-- **Which stubs are source text.** Those of a complete round of sources whose last handler has a
name that is one in capitals as well, and a response type that is one type when it is borrowed. -/
theorem stub_is_source_text {o : Origins} {r : Round} {w w' : World} (ho : o.manifests = [])
    (hr : o.collect.runOn w = (.ok r, w')) {p : Processor} (hp : p.overrides.template? .stub = none)
    (hstrict : p.policy = .strict) {v v' : World} {report : Report} {m : EndpointModel}
    (h : (p.processRound r).runOn v = (.ok report, v')) (hm : report.model? = some m)
    {ts : List TokenTree} {joint ok : Bool}
    (hread : ReadsInParens ('&' :: m.responseType.toList) (.punct '&' joint :: ts))
    (hok : IsType (.punct '&' joint :: ts) ok) :
    ∃ text d package s, p.overrides.text m .stub = .ok text ∧
      (getRoutes r.declarations).getLast? = some d ∧ Source.Declares package s d ∧
      ((fileItems? text).isSome = true ↔ (s.identifier.raw = false ∧
        Text.capitalize s.identifier.letters ∉ Ahead.keywords) ∧ ok = true) := by
  obtain ⟨rfl, hcheck, hpaths⟩ := processRound_eq_ok h hm
  rw [hstrict] at hcheck
  obtain ⟨⟨c, hc⟩, g, hg⟩ := exists_of_check_strict hcheck
  obtain ⟨package, s, hs⟩ :=
    Origins.exists_declares ho hr (List.mem_filter.1 (List.mem_of_getLast? hc)).1
  obtain ⟨package', s', hs'⟩ :=
    Origins.exists_declares ho hr (List.mem_filter.1 (List.mem_of_getLast? hg)).1
  have hclass : IsName (scan r.declarations).stubClassName := by
    obtain ⟨a, ha⟩ := hpaths .stub (by decide)
    have hall := (Layout.path_eq_ok_iff.1 (Emitter.targets_eq_ok_iff.1 ha).2.1).1
    rw [stubClassName_of_declares hs hc]
    exact ((all_isSegment_stub hc hs).1 hall).2.isName_stub
  have hmethod := methodName_of_declares hs' hg
  have hlegible := legible_of_processRound hpaths hclass hmethod hread
  refine ⟨_, g, package', s', by rw [Overrides.text, hp], hg, hs', ?_⟩
  rw [← s'.identifier.isName_capital_iff]
  by_cases hname : IsName (Text.capitalize s'.identifier.text)
  · have hstatus := Word.isName_capital_append (s := "WithStatus") (by decide) (by decide) hname
    have hparse := StubData.isSome_fileItems? hlegible rfl rfl
      (s'.identifier.namesFunction_capital hname) (Word.namesFunction_capital _ hstatus) hok
    rw [Bool.true_and, Bool.and_true] at hparse
    exact ⟨fun h => ⟨hname, hparse ▸ h⟩, fun h => hparse.trans h.2⟩
  · -- Whatever is made of the second method, the first one is not given.
    obtain ⟨statusNamed, hstatus⟩ : ∃ statusNamed, NamesFunction statusNamed
        (s'.identifier.append "WithStatus" (by decide)).capitalTrees := by
      by_cases h : IsName (Text.capitalize (s'.identifier.append "WithStatus" (by decide)).text)
      · exact ⟨true, Word.namesFunction_capital _ h⟩
      · exact ⟨false, Word.namesFunction_capital_false _ h⟩
    have hparse := StubData.isSome_fileItems? hlegible rfl rfl
      (s'.identifier.namesFunction_capital_false hname) hstatus hok
    rw [Bool.false_and, Bool.false_and] at hparse
    refine ⟨fun h => ?_, fun h => absurd h.1 hname⟩
    exact absurd (hparse.symm.trans h) (by decide)

/-- A handler that returns a number. -/
theorem stub_with_number_is_source_text :
    let o : Origins := { sources := [⟨"src"⟩] }
    let w : World :=
      { tree := sourceTree "acme.rs" <|
          "#[rest_controller(\"/api\")] struct A; " ++
          "#[get_mapping(\"/ping\")] fn ping() -> u8 \x7b 0 \x7d" }
    let r : Round := .ofDeclarations
      [{ name := "acme.A", markers := [{ kind := .restController, value := ["/api"] }] },
       { name := "acme.ping", markers := [{ kind := .getMapping, value := ["/ping"] }],
         declaredType := some "u8" }]
    let p : Processor := ⟨{}, .ofRoots ⟨"out"⟩ ⟨"mirror"⟩ "rs", .strict⟩
    let m : EndpointModel := scan r.declarations
    o.manifests = [] ∧ (∃ w', o.collect.runOn w = (.ok r, w')) ∧
      p.overrides.template? .stub = none ∧ p.policy = .strict ∧
      (∃ report v', (p.processRound r).runOn w = (.ok report, v') ∧ report.model? = some m) ∧
      ReadsInParens ('&' :: m.responseType.toList) [.punct '&' false, .word (.of "u8")] ∧
      IsType [.punct '&' false, .word (.of "u8")] true ∧
      ∃ text d package s, p.overrides.text m .stub = .ok text ∧
        (getRoutes r.declarations).getLast? = some d ∧ Source.Declares package s d ∧
        ((fileItems? text).isSome = true ↔ (s.identifier.raw = false ∧
          Text.capitalize s.identifier.letters ∉ Ahead.keywords) ∧ true = true) := by
  intro o w r p m
  obtain ⟨w', hr⟩ : ∃ w', o.collect.runOn w = (.ok r, w') :=
    Session.exists_runOn_of_toOption (by decide +kernel)
  have hmodel : ((p.processRound r).runOn w).1.toOption.bind Report.model? = some m := by
    decide +kernel
  obtain ⟨report, hreport, hm⟩ := Option.bind_eq_some_iff.1 hmodel
  obtain ⟨v', h⟩ := Session.exists_runOn_of_toOption hreport
  have hresponse : m.responseType = "u8" := by decide +kernel
  have hread : ReadsInParens ('&' :: m.responseType.toList)
      [.punct '&' false, .word (.of "u8")] := by
    intro rest
    have hpieces :=
      Piece.reads_charsAll [.punct '&' false, .word (.of "u8")] (')' :: rest) (by rfl)
    rw [hresponse]
    simpa [Piece.charsAll, Piece.chars, Piece.treesAll, Piece.trees, Word.text, Word.of]
      using hpieces
  have htype : IsType [.punct '&' false, .word (.of "u8")] true := by
    intro n hn
    obtain ⟨k, rfl⟩ : ∃ k, n = k + 5 := ⟨n - 5, by omega⟩
    exact .all fun _ => ⟨_, rfl⟩
  exact ⟨rfl, ⟨w', hr⟩, rfl, rfl, ⟨report, v', h, hm⟩, hread, htype,
    stub_is_source_text rfl hr rfl rfl h hm hread htype⟩

/-- A handler that returns nothing: its response is borrowed from no type. -/
theorem stub_without_response_is_no_source_text :
    let o : Origins := { sources := [⟨"src"⟩] }
    let w : World :=
      { tree := sourceTree "acme.rs" <|
          "#[rest_controller(\"/api\")] struct A; " ++
          "#[get_mapping(\"/ping\")] fn ping() \x7b\x7d" }
    let r : Round := .ofDeclarations
      [{ name := "acme.A", markers := [{ kind := .restController, value := ["/api"] }] },
       { name := "acme.ping", markers := [{ kind := .getMapping, value := ["/ping"] }],
         declaredType := some "()" }]
    let p : Processor := ⟨{}, .ofRoots ⟨"out"⟩ ⟨"mirror"⟩ "rs", .strict⟩
    let m : EndpointModel := scan r.declarations
    (∃ w', o.collect.runOn w = (.ok r, w')) ∧
      (∃ report v', (p.processRound r).runOn w = (.ok report, v') ∧ report.model? = some m) ∧
      p.overrides.text m .stub = .ok (ArtifactKind.stub.builtinText m) ∧
      fileItems? (ArtifactKind.stub.builtinText m) = none := by
  intro o w r p m
  have hr : ∃ w', o.collect.runOn w = (.ok r, w') :=
    Session.exists_runOn_of_toOption (by decide +kernel)
  have hmodel : ((p.processRound r).runOn w).1.toOption.bind Report.model? = some m := by
    decide +kernel
  obtain ⟨report, hreport, hm⟩ := Option.bind_eq_some_iff.1 hmodel
  obtain ⟨v', h⟩ := Session.exists_runOn_of_toOption hreport
  have hclass : IsName m.stubClassName := ⟨by decide +kernel, by decide +kernel⟩
  have hmethod : m.methodName = Text.capitalize (Word.of "ping").text := by decide +kernel
  have hresponse : m.responseType = "" := by decide +kernel
  have hread : ReadsInParens ('&' :: m.responseType.toList) [.punct '&' false] := by
    rw [hresponse]
    exact fun rest => Piece.reads_charsAll [.punct '&' false] (')' :: rest) rfl
  have htype : IsType [.punct '&' false] false := by
    intro n hn
    obtain ⟨k, rfl⟩ : ∃ k, n = k + 5 := ⟨n - 5, by omega⟩
    exact .none (t := .other) fun taken => ⟨taken, rfl⟩
  have hlegible := legible_of_processRound (processRound_eq_ok h hm).2.2 hclass hmethod hread
  have hname : IsName (Text.capitalize (Word.of "ping").text) :=
    ⟨by decide +kernel, by decide +kernel⟩
  have hstatus := Word.isName_capital_append (s := "WithStatus") (by decide) (by decide) hname
  have hparse := StubData.isSome_fileItems? hlegible rfl rfl (Word.namesFunction_capital _ hname)
    (Word.namesFunction_capital _ hstatus) htype
  have hsome : (fileItems? (ArtifactKind.stub.builtinText m)).isSome = false := hparse
  exact ⟨hr, ⟨report, v', h, hm⟩, rfl, Option.not_isSome_iff_eq_none.1 (by rw [hsome]; decide)⟩

end Processor

end EndpointStubs
