import EndpointStubs.Proofs.Round.Reached
import EndpointStubs.Proofs.Syntax.Lexing
import EndpointStubs.Syntax.Attributes

/-!
# Texts inside artifacts

Whatever the resources of a model are, the constants of its stub hold them: each value is one
literal, which ends where its line ends and stands for the resource. The base writes the name of
the package between quotes as it is; that is a literal as well, once the base has a path.

    text = before ++ "pub const NAME: &'static str = " ++ literal ++ ";" ++ after
-/

namespace EndpointStubs

open Syntax

/-! ## Constants -/

/-- After the lines `before` the text has the constant `name`: one literal, directly followed by
a semicolon, that stands for `value`. -/
def HasConstant (text : String) (before : List String) (name value : String) : Prop :=
  ∃ literal after : List Char,
    text.toList = (Text.joinStrings "\n" before).toList ++
      ("\n    pub const " ++ name ++ ": &'static str = ").toList ++ literal ++ ';' :: after ∧
    Lexer.read literal = some [.literal (String.ofList literal)] ∧
    Lexer.cutToken (literal ++ ';' :: after) =
      some (.literal (String.ofList literal), ';' :: after) ∧
    Syntax.literal.literalText? literal = some value

/-- A line of a constant whose value is quoted makes it so. -/
theorem hasConstant_of_lines {lines : List String} {i : Nat} {start name literal value : String}
    (hi : 0 < i) (hline : lines[i]? = some (start ++ literal ++ ";"))
    (hstart : start = "    pub const " ++ name ++ ": &'static str = ")
    (hq : Text.Quoted.IsQuoted literal.toList value.toList) :
    HasConstant (Text.joinStrings "\n" lines) (lines.take i) name value := by
  obtain ⟨hlt, hget⟩ := List.getElem?_eq_some_iff.1 hline
  have hlines : lines = lines.take i ++ (start ++ literal ++ ";") :: lines.drop (i + 1) := by
    rw [← hget, ← List.drop_eq_getElem_cons hlt, List.take_append_drop]
  have hb : (lines.take i).map String.toList ≠ [] := by
    have hlength : (lines.take i).length = i := List.length_take_of_le (Nat.le_of_lt hlt)
    intro e
    rw [List.map_eq_nil_iff.1 e] at hlength
    simp only [List.length_nil] at hlength
    omega
  obtain ⟨rest, hrest⟩ : ∃ rest,
      Text.join ['\n'] (((start ++ literal ++ ";") :: lines.drop (i + 1)).map String.toList) =
        (start ++ literal ++ ";").toList ++ rest := by
    by_cases ha : lines.drop (i + 1) = []
    · rw [ha]
      exact ⟨[], (List.append_nil _).symm⟩
    · refine ⟨['\n'] ++ Text.join ['\n'] ((lines.drop (i + 1)).map String.toList), ?_⟩
      rw [List.map_cons, Text.join_cons_of_ne_nil _ _ (by simpa using ha), List.append_assoc]
  have hcut : Lexer.cutToken (literal.toList ++ ';' :: rest) =
      some (.literal (String.ofList literal.toList), ';' :: rest) :=
    Lexer.cutToken_of_isQuoted hq (show isWordStart ';' = false by decide)
  have hread : Lexer.Reads (literal.toList ++ []) [.literal (String.ofList literal.toList)] [] :=
    .of_isQuoted hq rfl
  rw [List.append_nil] at hread
  refine ⟨literal.toList, rest, ?_, hread.read_eq ?_, hcut, ?_⟩
  · have hsep : "\n".toList = ['\n'] := rfl
    have hjoin : (Text.joinStrings "\n" lines).toList =
        Text.join ['\n'] ((lines.take i).map String.toList) ++ ['\n'] ++
          ((start ++ literal ++ ";").toList ++ rest) := by
      rw [Text.joinStrings, String.toList_ofList, hsep]
      conv_lhs => rw [hlines, List.map_append, Text.join_append _ hb (by simp), hrest]
    rw [hjoin, hstart, Text.joinStrings, String.toList_ofList, hsep]
    simp
  · obtain ⟨body, hbody, -⟩ := hq
    simp [hbody]
  · obtain ⟨body, hbody, hvalue⟩ := hq
    rw [hbody, Syntax.literal.literalText?, hvalue]
    simp

/-! ## Packages of artifacts with a path -/

namespace QualifiedName

/-- Characters of a name whose segments are segments. -/
theorem isSegmentChar_of_mem {name : String} (h : (segments name).all isSegment = true) {c : Char}
    (hc : c ∈ name.toList) : c = '.' ∨ isSegmentChar c = true := by
  rcases (Text.mem_pieces_of_mem hc : c = '.' ∨ _) with hdot | ⟨p, hp, hcp⟩
  · exact .inl hdot
  · have hs : String.ofList p ∈ segments name := List.mem_map_of_mem hp
    have hseg := List.all_eq_true.1 h _ hs
    simp only [isSegment, Bool.and_eq_true, List.all_eq_true, String.toList_ofList] at hseg
    exact .inr (hseg.2 c hcp)

/-- Such a name needs no escapes. -/
theorem isQuoted_of_segments {name : String} (h : (segments name).all isSegment = true) :
    Text.Quoted.IsQuoted ("\"" ++ name ++ "\"").toList name.toList := by
  have hplain : ∀ c ∈ name.toList, c ≠ '"' ∧ c ≠ '\\' ∧ c ≠ '\r' := by
    intro c hc
    have hchar : c = '.' ∨ isSegmentChar c = true := isSegmentChar_of_mem h hc
    refine ⟨?_, ?_, ?_⟩ <;> rintro rfl <;> revert hchar <;> decide +kernel
  have hq := Text.Quoted.isQuoted_of_plain hplain
  simpa using hq

end QualifiedName

/-- The base of a package has a path only if the name of the package needs no escapes. -/
theorem EndpointModel.isQuoted_packageName {m : EndpointModel} {e : Emitter} {a : Artifact}
    (h : e.targets m.stubBaseFullName = .ok a) :
    Text.Quoted.IsQuoted ("\"" ++ m.packageName ++ "\"").toList m.packageName.toList := by
  have hpath := (Emitter.targets_eq_ok_iff.1 h).2.1
  have hall := (Layout.path_eq_ok_iff.1 hpath).1
  rw [stubBaseFullName, QualifiedName.segments_qualify, QualifiedName.folders] at hall
  by_cases hp : m.packageName = ""
  · rw [hp]
    exact ⟨['"'], rfl, rfl⟩
  · rw [if_neg hp, List.all_append, Bool.and_eq_true] at hall
    exact QualifiedName.isQuoted_of_segments hall.1

/-- **No text ends a literal early.** In the stub of every model the two resources are the values
of two constants, and in the base of a processed round the package is: each is one literal that
stands for just that text. -/
theorem constants_stand_for_model (m : EndpointModel) :
    HasConstant (ArtifactKind.stub.builtinText m) ((StubData.ofModel m).lines.take 11)
        "ROOT_RESOURCE" m.rootResource ∧
      HasConstant (ArtifactKind.stub.builtinText m) ((StubData.ofModel m).lines.take 12)
        "SUB_RESOURCE" m.subResource ∧
      ∀ (p : Processor) (r : Round) (w w' : World) (report : Report),
        p.overrides.template? .stubBase = none →
        (p.processRound r).runOn w = (.ok report, w') → report.model? = some m →
        ∃ text, p.overrides.text m .stubBase = .ok text ∧
          HasConstant text ((BaseData.ofModel m).lines.take 11) "PACKAGE" m.packageName := by
  have hquote (s : String) : Text.Quoted.IsQuoted (Text.Quoted.quote s).toList s.toList := by
    rw [Text.Quoted.quote, String.toList_ofList]
    exact Text.Quoted.isQuoted_encode _
  refine ⟨?_, ?_, ?_⟩
  · exact hasConstant_of_lines (by decide) (by rfl) (by decide) (hquote m.rootResource)
  · exact hasConstant_of_lines (by decide) (by rfl) (by decide) (hquote m.subResource)
  · intro p r w w' report hbuiltin h hm
    refine ⟨ArtifactKind.stubBase.builtinText m, by rw [Overrides.text, hbuiltin], ?_⟩
    obtain ⟨a, ha⟩ := (Processor.processRound_eq_ok h hm).2.2 .stubBase (by decide)
    have hq := EndpointModel.isQuoted_packageName ha
    have hquotes : "    pub const PACKAGE: &'static str = \"" ++ m.packageName ++ "\";" =
        "    pub const PACKAGE: &'static str = " ++ ("\"" ++ m.packageName ++ "\"") ++ ";" := by
      rw [← String.toList_inj]
      simp
    have hline : (BaseData.ofModel m).lines[11]? =
        some ("    pub const PACKAGE: &'static str = " ++ ("\"" ++ m.packageName ++ "\"") ++ ";") :=
      hquotes ▸ rfl
    exact hasConstant_of_lines (by decide) hline (by decide) hq

/-- A root resource with a quote, a backslash and a line end in it. -/
theorem constants_stand_for_escaped :
    let p : Processor := ⟨{}, .ofRoots ⟨"out"⟩ ⟨"mirror"⟩ "rs", .strict⟩
    let r : Round := .ofDeclarations
      [{ name := "a.B", markers := [{ kind := .restController, path := ["/\"\\\n"] }] },
       { name := "a.B.one", markers := [{ kind := .getMapping }], declaredType := some "X" }]
    let w : World := { tree := ⟨[(["w"], .directory)], ["w"]⟩ }
    let m : EndpointModel := scan r.declarations
    m.rootResource = "/\"\\\n" ∧ m.packageName = "a" ∧ p.overrides.template? .stubBase = none ∧
      (∃ report w', (p.processRound r).runOn w = (.ok report, w') ∧ report.model? = some m) ∧
      HasConstant (ArtifactKind.stub.builtinText m) ((StubData.ofModel m).lines.take 11)
        "ROOT_RESOURCE" "/\"\\\n" ∧
      ∃ text, p.overrides.text m .stubBase = .ok text ∧
        HasConstant text ((BaseData.ofModel m).lines.take 11) "PACKAGE" "a" := by
  intro p r w m
  have hroot : m.rootResource = "/\"\\\n" := by decide +kernel
  have hpackage : m.packageName = "a" := by decide +kernel
  have hmodel : ((p.processRound r).runOn w).1.toOption.bind Report.model? = some m := by
    decide +kernel
  obtain ⟨report, hreport, hm⟩ := Option.bind_eq_some_iff.1 hmodel
  obtain ⟨w', h⟩ := Session.exists_runOn_of_toOption hreport
  obtain ⟨hconstant, -, hbase⟩ := constants_stand_for_model m
  have htext := hbase p r w w' report rfl h hm
  rw [hroot] at hconstant
  rw [hpackage] at htext
  exact ⟨hroot, hpackage, rfl, ⟨report, w', h, hm⟩, hconstant, htext⟩

end EndpointStubs
