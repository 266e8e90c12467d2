import EndpointStubs.Proofs.Artifact.Layout
import EndpointStubs.Proofs.Syntax.Items

/-!
# The grammar and the stub

The items of a stub are given one by one, down to the members of its implementation. All of them
are as the grammar has them, but for the type of the response, which decides: where it is one type,
the stub is source text, and where it is none, the stub is not.
-/

namespace EndpointStubs

open Syntax Parse

theorem Syntax.TokenTree.sizeAll_append (ts us : List TokenTree) :
    sizeAll (ts ++ us) = sizeAll ts + sizeAll us := by
  induction ts with
  | nil => simp [sizeAll]
  | cons t ts ih =>
    rw [List.cons_append, sizeAll, sizeAll, ih]
    omega

namespace StubData

variable {rest ts params : List TokenTree} {n k : Nat} {ok joint : Bool} {t : TypeShape}

/-! ## Constants and functions -/

theorem gives_text (g : Grammar) (text : String) (rest : List TokenTree) :
    ∃ e, Gives true (exprOf g true) [.literal text] (.punct ';' false :: rest) e := by
  obtain ⟨e, he⟩ : ∃ e, Gives true (unaryOf g true) [.literal text] (.punct ';' false :: rest) e :=
    ⟨_, fun _ => ⟨_, rfl⟩⟩
  -- No operator follows, whatever the literal is.
  refine ⟨e, he.done ?_⟩
  cases e <;> exact fun _ => ⟨_, rfl⟩

/-- A constant of the stub is read as a member of an implementation. -/
theorem gives_constant {name : Word}
    (hname : name = .of "ROOT_RESOURCE" ∨ name = .of "SUB_RESOURCE") (text : String)
    (rest : List TokenTree) :
    ∃ f, Gives true (implementationItem (.ofDepth (k + 5))) (Piece.treesAll (constant name text))
      rest f := by
  obtain ⟨e, he⟩ := gives_text (.ofDepth (k + 4)) (Text.Quoted.quote text) rest
  have hvalue : Gives true (optionalValue (.ofDepth (k + 5)))
      ([.punct '=' false] ++ [.literal (Text.Quoted.quote text)]) (.punct ';' false :: rest) true :=
    .bind _ (a := true) (fun _ => ⟨_, rfl⟩) (.done he fun _ => ⟨_, rfl⟩)
  have hconstant : Gives true (Syntax.constant (.ofDepth (k + 5)))
      ([.word (.of "const")] ++ ([.word name] ++ ([.punct ':' false, .punct '&' true,
        .punct '\'' true, .word (.of "static"), .word (.of "str")] ++
        ([.punct '=' false, .literal (Text.Quoted.quote text)] ++ [.punct ';' false]))))
      rest (false, true) := by
    refine .bind _ (a := ()) (fun _ => ⟨_, rfl⟩) ?_
    refine .bind _ (a := name) ?_ ?_
    · rcases hname with rfl | rfl <;> exact fun _ => ⟨_, rfl⟩
    refine .then (a := false) (fun _ => ⟨_, rfl⟩) ?_
    refine .bind _ (a := ()) (fun _ => ⟨_, rfl⟩) ?_
    refine .bind _ hvalue ?_
    exact fun _ => ⟨_, rfl⟩
  refine ⟨none, .asWrittenIf ?_⟩
  refine .then (a := []) (fun _ => ⟨_, rfl⟩) ?_
  refine .bind [.word (.of "pub")] (a := true) (fun _ => ⟨_, rfl⟩) ?_
  refine .ifNot rfl ?_
  refine .then (a := false) (fun _ => ⟨_, rfl⟩) ?_
  refine .then (fun _ => ⟨_, rfl⟩) ?_
  refine .then (a := false) ?_ ?_
  · rcases hname with rfl | rfl <;> exact fun _ => ⟨_, rfl⟩
  refine .done hconstant ?_
  exact fun _ => ⟨_, rfl⟩

theorem gives_newFunction (rest : List TokenTree) :
    Gives true (implementationItem (.ofDepth (k + 5))) (Piece.treesAll newFunction) rest
      (some ⟨[], .of "new", some [.word (.of "Self")]⟩) :=
  fun _ => ⟨_, rfl⟩

theorem gives_resourceFunction (rest : List TokenTree) :
    Gives true (implementationItem (.ofDepth (k + 5))) (Piece.treesAll resourceFunction) rest
      (some ⟨[], .of "resource", some [.word (.of "String")]⟩) :=
  fun _ => ⟨_, rfl⟩

/-! ## Parameters -/

theorem gives_receiver (h : Gives ok (functionParams (.ofDepth (k + 5)) n false) params [] ()) :
    Gives ok (functionParams (.ofDepth (k + 5)) (n + 1) true)
      ([.punct '&' false, .word (.of "self")] ++ ([.punct ',' false] ++ params)) [] () := by
  have hparam : Gives true (functionParam (.ofDepth (k + 5))) [.punct '&' false, .word (.of "self")]
      (.punct ',' false :: params) .receiver := fun _ => ⟨_, rfl⟩
  exact gives_param rfl (by simp) hparam (.inr ⟨rfl, rfl⟩) h

theorem gives_statusAlone :
    Gives true (functionParams (.ofDepth (k + 5)) (n + 1) false)
      [.word (.of "status"), .punct ':' false, .word (.of "u16")] [] () :=
  fun _ => ⟨_, rfl⟩

theorem gives_status (h : Gives ok (functionParams (.ofDepth (k + 5)) n false) params [] ()) :
    Gives ok (functionParams (.ofDepth (k + 5)) (n + 1) false)
      ([.word (.of "status"), .punct ':' false, .word (.of "u16")] ++
        ([.punct ',' false] ++ params)) [] () := by
  have hparam : Gives true (functionParam (.ofDepth (k + 5)))
      [.word (.of "status"), .punct ':' false, .word (.of "u16")] (.punct ',' false :: params)
      .typed :=
    fun _ => ⟨_, rfl⟩
  exact gives_param rfl (by simp) hparam (.inl rfl) h

/-- A parameter whose type is given has what is behind the type left. -/
theorem gives_responseParam
    (h : Gives ok ((Grammar.ofDepth (k + 5)).type true) (.punct '&' joint :: ts) rest t) :
    Gives ok (functionParam (.ofDepth (k + 5)))
      ([.word (.of "response"), .punct ':' false] ++ .punct '&' joint :: ts) rest .typed := by
  refine .then (a := false) (fun _ => ⟨_, rfl⟩) ?_
  refine .ifNot rfl ?_
  refine .ifNot rfl ?_
  refine .bind [.word (.of "response")] (a := .other) (fun _ => ⟨_, rfl⟩) ?_
  refine .bind [.punct ':' false] (a := ()) (fun _ => ⟨_, rfl⟩) ?_
  refine .then (a := false) (fun _ => ⟨_, rfl⟩) ?_
  refine .done h ?_
  exact fun _ => ⟨_, rfl⟩

/-- The response is a parameter just if what it is borrowed from is one type. -/
theorem gives_response (h : OneType (.ofDepth (k + 5)) (.punct '&' joint :: ts) ok) :
    Gives ok (functionParams (.ofDepth (k + 5)) (n + 1) false)
      ([.word (.of "response"), .punct ':' false] ++ .punct '&' joint :: ts) [] () := by
  cases h with
  | all h | none h =>
    refine .ifNot rfl ?_
    refine .then (gives_noAttributes rfl) ?_
    refine .done (gives_responseParam h) ?_
    exact fun _ => ⟨_, rfl⟩
  | @some _ front us t hne hcomma h =>
    have hfail : Gives false (punct ",") [] (us ++ []) () := by
      rw [List.append_nil]
      refine .then (gives_ahead hcomma) ?_
      exact fun taken => ⟨taken, rfl⟩
    have hparam : Gives true (functionParam (.ofDepth (k + 5)))
        ([.word (.of "response"), .punct ':' false] ++ .punct '&' joint :: front) (us ++ [])
        .typed :=
      gives_responseParam (by rwa [List.append_nil])
    refine .ifNot rfl ?_
    refine .then (gives_noAttributes rfl) ?_
    refine .bind ([.word (.of "response"), .punct ':' false] ++ .punct '&' joint :: front)
      hparam ?_
    refine .then (a := ()) (fun _ => ⟨_, rfl⟩) ?_
    refine .ifNot (by simpa using hne) ?_
    exact hfail.fail _ _

/-! ## Methods -/

/-- The doc comment of a method, and the method with it. -/
theorem gives_method {g : Grammar} {named : Bool} {name inner : List TokenTree} (doc : String)
    (hname : NamesFunction named name)
    (hparams : Gives ok (functionParams g (params.length + 1) true) params [] ())
    (hbody : Gives true (functionBody g) [.group .brace inner] rest []) :
    ∃ f, Gives (named && ok) (implementationItem g)
      (Piece.treesAll [.doc doc] ++ ([.word (.of "pub")] ++
        (([.word (.of "async"), .word (.of "fn")] ++ (name ++ [.group .paren params])) ++
          [.group .brace inner]))) rest f := by
  obtain ⟨attributes, hdoc⟩ : ∃ attributes, Gives true (outerAttributes g)
      (Piece.treesAll [.doc doc]) (.word (.of "pub") :: .word (.of "async") :: .word (.of "fn") ::
        (name ++ .group .paren params :: .group .brace inner :: rest)) attributes :=
    ⟨[_], fun _ => ⟨_, rfl⟩⟩
  obtain ⟨s, hsignature⟩ := hname g params inner rest ok hparams
  refine ⟨some ⟨attributes, s.1, s.2⟩, .asWrittenIf ?_⟩
  refine .bind _ (by simpa using hdoc) ?_
  refine .bind [.word (.of "pub")] (a := true) (fun _ => ⟨_, rfl⟩) ?_
  refine .ifNot rfl ?_
  refine .then (a := false) (fun _ => ⟨_, rfl⟩) ?_
  refine .then (fun _ => ⟨_, rfl⟩) ?_
  refine .then (a := true) (fun _ => ⟨_, rfl⟩) ?_
  refine .last hsignature ?_
  refine .then (a := false) (fun _ => ⟨_, rfl⟩) ?_
  refine .done hbody ?_
  rw [List.append_nil]
  exact fun _ => ⟨_, rfl⟩

theorem gives_responseBody (rest : List TokenTree) :
    Gives true (functionBody (.ofDepth (k + 5)))
      [.group .brace ([bodyOfResponse, stubCall (.of "body")].flatMap Piece.treesAll)] rest [] :=
  fun _ => ⟨_, rfl⟩

theorem gives_statusBody (rest : List TokenTree) :
    Gives true (functionBody (.ofDepth (k + 5)))
      [.group .brace ([stubCall (.of "None")].flatMap Piece.treesAll)] rest [] :=
  fun _ => ⟨_, rfl⟩

section
variable {d : StubData} {name statusName : List TokenTree} {named statusNamed : Bool}
  (h : d.Legible name statusName (.punct '&' joint :: ts))

/-- The method with a response is accepted if its name can be one and the response is one type. -/
theorem gives_responseMethod (hname : NamesFunction named name)
    (hok : OneType (.ofDepth (k + 5)) (.punct '&' joint :: ts) ok) (rest : List TokenTree) :
    ∃ f, Gives (named && ok) (implementationItem (.ofDepth (k + 5)))
      (Piece.treesAll (responseMethod h).flatten) rest f := by
  have hparams := gives_allParams (m := 3) (by simp) fun n =>
    gives_receiver (gives_status (gives_response (n := n) hok))
  obtain ⟨f, hf⟩ := gives_method responseDoc hname hparams (gives_responseBody rest)
  refine ⟨f, ?_⟩
  simp only [trees_block, Piece.treesAll, Piece.trees, List.cons_append, List.nil_append,
    List.append_nil, List.append_assoc, List.flatMap_cons, List.flatMap_nil, List.flatten_cons,
    List.flatten_nil, responseMethod, method, space, typed, words] at hf ⊢
  exact hf

/-- The method without a response is accepted if its name can be one. -/
theorem gives_statusMethod (hname : NamesFunction statusNamed statusName)
    (rest : List TokenTree) :
    ∃ f, Gives statusNamed (implementationItem (.ofDepth (k + 5)))
      (Piece.treesAll (statusMethod h).flatten) rest f := by
  have hparams := gives_allParams (m := 2) (by simp) fun n =>
    gives_receiver (gives_statusAlone (n := n) (k := k))
  obtain ⟨f, hf⟩ := gives_method statusDoc hname hparams (gives_statusBody rest)
  rw [Bool.and_true] at hf
  refine ⟨f, ?_⟩
  simp only [trees_block, Piece.treesAll, Piece.trees, List.cons_append, List.nil_append,
    List.append_nil, List.append_assoc, List.flatMap_cons, List.flatMap_nil, List.flatten_cons,
    List.flatten_nil, statusMethod, method, space, typed, words] at hf ⊢
  exact hf

/-! ## The whole -/

/-- The members of the implementation, and which of them are given. -/
def members (ok statusNamed : Bool) : List (Bool × List TokenTree) :=
  [(true, Piece.treesAll (constant (.of "ROOT_RESOURCE") d.rootResource)),
   (true, Piece.treesAll (constant (.of "SUB_RESOURCE") d.subResource)),
   (true, Piece.treesAll newFunction),
   (true, Piece.treesAll resourceFunction),
   (ok, Piece.treesAll (responseMethod h).flatten),
   (statusNamed, Piece.treesAll (statusMethod h).flatten)]

/-- Each member of the implementation is read as one item, accepted or not. -/
theorem givesEach_members (hname : NamesFunction named name)
    (hstatus : NamesFunction statusNamed statusName)
    (hok : OneType (.ofDepth (k + 5)) (.punct '&' joint :: ts) ok) :
    GivesEach (implementationItem (.ofDepth (k + 5))) (members h (named && ok) statusNamed) := by
  simp only [GivesEach, members, List.forall_mem_cons]
  refine ⟨⟨?_, gives_constant (.inl rfl) _⟩, ⟨?_, gives_constant (.inr rfl) _⟩,
    ⟨?_, fun rest => ⟨_, gives_newFunction rest⟩⟩,
    ⟨?_, fun rest => ⟨_, gives_resourceFunction rest⟩⟩,
    ⟨?_, gives_responseMethod h hname hok⟩, ⟨?_, gives_statusMethod h hstatus⟩, by simp⟩
  all_goals exact List.cons_ne_nil _ _

/-- The attribute of the implementation. -/
def allowance : List TokenTree :=
  [.punct '#' false, .group .bracket
    [.word (.of "allow"), .group .paren [.word (.of "non_snake_case")]]]

def implementationTrees : List TokenTree :=
  allowance ++ ([.word (.of "impl")] ++ (lifetimeArgs ++ (([.word h.className.asWord] ++
    lifetimeArgs) ++ [.group .brace ((members h true true).flatMap Prod.snd)])))

/-- The items, and which of them are given. -/
def items (ok : Bool) : List (Bool × List TokenTree) :=
  [(true, Piece.treesAll (classItem d.stubClassName h.className)), (ok, implementationTrees h)]

/-- The remarks are gone, and so is where lines end. -/
theorem treesAll_source (ok : Bool) :
    Piece.treesAll (source h) = (items h ok).flatMap Prod.snd := by
  simp only [source, items, remarks, implementation, Piece.treesAll_append, treesAll_newLine,
    trees_block, Piece.treesAll, Piece.trees, lifetimes, lifetimeArgs, allowance,
    implementationTrees, members, List.cons_append, List.nil_append, List.append_nil, space,
    List.flatMap_cons, List.flatMap_nil, List.flatten_cons, List.flatten_nil, responseMethod,
    statusMethod, method]

/-- Each item of the stub is read as one, so the stub is accepted if all of them are. -/
theorem givesEach_items (hname : NamesFunction named name)
    (hstatus : NamesFunction statusNamed statusName)
    (hok : OneType (.ofDepth (k + 5)) (.punct '&' joint :: ts) ok) :
    GivesEach (itemOf (.ofDepth (k + 5))) (items h ((named && ok) && statusNamed)) := by
  obtain ⟨fs, hfs⟩ := (givesEach_members h hname hstatus hok).many
  have hall : (members h (named && ok) statusNamed).all Prod.fst =
      ((named && ok) && statusNamed) := by
    simp [members]
  rw [hall] at hfs
  simp only [GivesEach, items, List.forall_mem_cons]
  refine ⟨⟨List.cons_ne_nil _ _, fun rest => ?_⟩, ⟨List.cons_ne_nil _ _, fun rest => ?_⟩, by simp⟩
  · exact gives_structure h.className.asWord_notKeyword _ fun _ => ⟨_, rfl⟩
  · have hallowed {us : List TokenTree} : ∃ attributes, Gives true
        (outerAttributes (.ofDepth (k + 5))) allowance (.word (.of "impl") :: us) attributes :=
      ⟨[_], fun _ => ⟨_, rfl⟩⟩
    obtain ⟨attributes, hallowed⟩ := hallowed
    exact ⟨_, gives_allowedImplementation h.className.asWord_notKeyword hallowed hfs rfl⟩

include h

/-- The response is only a part of the stub. -/
theorem sizeAll_source : TokenTree.sizeAll (.punct '&' joint :: ts) + 1 ≤
    TokenTree.sizeAll (Piece.treesAll (source h)) := by
  have hresponse : TokenTree.sizeAll (.punct '&' joint :: ts) + 1 ≤
      TokenTree.sizeAll (Piece.treesAll (responseMethod h).flatten) := by
    simp only [responseMethod, method, List.flatten_cons, List.flatten_nil,
      Piece.treesAll_append, Piece.treesAll, Piece.trees, TokenTree.sizeAll_append,
      TokenTree.sizeAll, TokenTree.size]
    omega
  refine hresponse.trans ?_
  rw [treesAll_source h true]
  simp only [items, implementationTrees, members, List.flatMap_cons, List.flatMap_nil,
    TokenTree.sizeAll_append, TokenTree.sizeAll, TokenTree.size]
  omega

/-- **When a stub is source text**: its methods have names, and the type of the response is one
type. -/
theorem isSome_fileItems? (hr : d.rootResourceLiteral = Text.Quoted.quote d.rootResource)
    (hs : d.subResourceLiteral = Text.Quoted.quote d.subResource)
    (hname : NamesFunction named name) (hstatus : NamesFunction statusNamed statusName)
    (hok : IsType (.punct '&' joint :: ts) ok) :
    (fileItems? (Text.joinStrings "\n" d.lines)).isSome = ((named && ok) && statusNamed) := by
  have hread : Lexer.read (Piece.charsAll (source h)) = some (Piece.treesAll (source h)) := by
    have hreads := Piece.reads_charsAll (source h) [] (fitsAll_source h)
    rw [List.append_nil] at hreads
    exact hreads.read_eq nofun
  obtain ⟨k, hk⟩ : ∃ k, 4 * TokenTree.sizeAll (Piece.treesAll (source h)) + 8 = k + 6 :=
    ⟨4 * TokenTree.sizeAll (Piece.treesAll (source h)) + 2, rfl⟩
  have hsize := sizeAll_source h
  obtain ⟨is, his⟩ := (givesEach_items (k := k) h hname hstatus (hok (k + 5) (by omega))).many
  have hall : (items h ((named && ok) && statusNamed)).all Prod.fst =
      ((named && ok) && statusNamed) := by
    simp [items]
  rw [hall, ← treesAll_source] at his
  have hinner : Gives true (innerAttributes (.ofDepth (k + 6))) []
      (Piece.treesAll (source h) ++ []) [] := fun _ => ⟨_, rfl⟩
  have hfile : (parse? (fun g => do
      let _ ← innerAttributes g
      many g.item) (Piece.treesAll (source h))).isSome = ((named && ok) && statusNamed) := by
    rw [parse?, Grammar.for, hk]
    exact (Gives.then hinner his).isSome_runAll
  -- Neither a mark nor an interpreter stands in front of the first remark.
  have hstart : fileItems? (Text.joinStrings "\n" d.lines) =
      (Lexer.read (Piece.charsAll (source h))).bind fun ts => parse? (fun g => do
        let _ ← innerAttributes g
        many g.item) ts := by
    unfold fileItems?
    rw [charsAll_source h hr hs]
    rfl
  rw [hstart, hread]
  exact hfile

end

end StubData

end EndpointStubs
