import EndpointStubs.Proofs.Syntax.Piece
import EndpointStubs.Proofs.Syntax.Running

/-!
# Items and their names

What parsers make of a word that is no keyword, where it names a type or a function, and of the
structures, functions and implementations around such names. Nothing else about the words matters.
-/

namespace EndpointStubs.Syntax

open Parse

variable {w : Word} {ts rest params inner : List TokenTree} {g : Grammar} {ok : Bool} {n k : Nat}

/-! ## Attributes and parameters -/

theorem gives_noAttributes (h : Ahead.isPunct "#" rest = false) :
    Gives true (outerAttributes g) [] rest [] := by
  refine .then (a := rest) (fun _ => ⟨_, rfl⟩) ?_
  exact .ifNot h fun _ => ⟨_, rfl⟩

theorem gives_noInnerAttributes (h : Ahead.isPunct "#" rest = false) :
    Gives true (innerAttributes g) [] rest [] := by
  refine .then (a := rest) (fun _ => ⟨_, rfl⟩) ?_
  exact .ifNot (Bool.and_eq_false_imp.2 fun h' => absurd h' (by simpa using h)) fun _ => ⟨_, rfl⟩

/-- A parameter with others behind it. -/
theorem gives_param {kind : ParamKind} {first : Bool}
    (hattributes : Ahead.isPunct "#" (ts ++ .punct ',' false :: params) = false) (hne : ts ≠ [])
    (hparam : Gives true (functionParam g) ts (.punct ',' false :: params) kind)
    (hkind : kind = .typed ∨ kind = .receiver ∧ first = true)
    (hparams : Gives ok (functionParams g n false) params [] ()) :
    Gives ok (functionParams g (n + 1) first) (ts ++ ([.punct ',' false] ++ params)) [] () := by
  have hcomma : Gives ok (ahead List.isEmpty >>= fun answer => if answer = true then pure () else do
      punct ","; functionParams g n false) ([.punct ',' false] ++ params) [] () :=
    .ifNot rfl (.bind [_] (a := ()) (fun _ => ⟨_, rfl⟩) hparams)
  refine .ifNot (by simp [hne]) ?_
  refine .then (gives_noAttributes (by simpa using hattributes)) ?_
  refine .bind _ (by simpa using hparam) ?_
  obtain rfl | ⟨rfl, rfl⟩ := hkind
  all_goals exact .then (a := ()) (fun _ => ⟨_, rfl⟩) hcomma

/-- Fewer than the tokens are enough as a bound. -/
theorem gives_allParams {m : Nat} (hm : m ≤ params.length + 1)
    (h : ∀ n, Gives ok (functionParams g (n + m) true) params [] ()) :
    Gives ok (functionParams g (params.length + 1) true) params [] () := by
  have := h (params.length + 1 - m)
  rwa [Nat.sub_add_cancel hm] at this

section
variable (h : w.text ∉ Ahead.keywords)
include h

/-! ## Words and types -/

theorem isIdent_word : Ahead.isIdent (.word w :: ts) = true := by simp [Ahead.isIdent, h]

theorem isWordOf_word {ws : List String} (hws : ∀ v ∈ ws, v ∈ Ahead.keywords) :
    Ahead.isWordOf ws (.word w :: ts) = false := by
  have : w.text ∉ ws := fun hw => h (hws _ hw)
  simpa [Ahead.isWordOf] using this

theorem isWord_word {v : String} (hv : v ∈ Ahead.keywords) :
    Ahead.isWord v (.word w :: ts) = false := by
  have : w.text ≠ v := fun hw => h (hw ▸ hv)
  simpa [Ahead.isWord] using this

theorem startsPath_word : startsPath (.word w :: ts) = true := by
  simp [startsPath, isIdent_word h]

theorem gives_ident : Gives true ident [.word w] rest w := by
  refine .then (gives_ahead (isIdent_word h)) ?_
  exact fun _ => ⟨_, rfl⟩

/-- A lifetime in angle brackets. -/
def lifetimeArgs : List TokenTree :=
  [.punct '<' true, .punct '\'' true, .word (.of "a"), .punct '>' false]

omit h in
theorem gives_lifetimeArgs :
    Gives true (genericParams (.ofDepth (k + 5))) lifetimeArgs rest true :=
  fun _ => ⟨_, rfl⟩

theorem gives_pathSegment (bound : Parse Unit) (d : Delimiter) (inner : List TokenTree) :
    Gives true (pathSegment g bound false) ([.word w] ++ lifetimeArgs) (.group d inner :: rest)
      (w, .angle) := by
  refine .ifNot (isWordOf_word h (by decide)) ?_
  refine .ifNot (isWord_word h (by decide)) ?_
  refine .bind _ (gives_ident h) ?_
  exact fun _ => ⟨_, rfl⟩

theorem gives_path (bound : Parse Unit) (d : Delimiter) (inner : List TokenTree) :
    Gives true (path g bound false) ([.word w] ++ lifetimeArgs) (.group d inner :: rest)
      ⟨false, false, [(w, .angle)]⟩ := by
  refine .then (a := false) (fun _ => ⟨_, rfl⟩) ?_
  refine .done (gives_pathSegment h bound d inner) ?_
  exact fun _ => ⟨_, rfl⟩

theorem gives_qualifiedPath (bound : Parse Unit) (d : Delimiter) (inner : List TokenTree) :
    Gives true (qualifiedPath g bound false) ([.word w] ++ lifetimeArgs) (.group d inner :: rest)
      ⟨false, false, [(w, .angle)]⟩ := by
  refine .then (a := false) (fun _ => ⟨_, rfl⟩) ?_
  exact gives_path h bound d inner

theorem gives_pathType (d : Delimiter) (inner : List TokenTree) :
    Gives true (pathType g [] true) ([.word w] ++ lifetimeArgs) (.group d inner :: rest)
      (.path ⟨false, false, [(w, .angle)]⟩) := by
  obtain ⟨written, hpath⟩ := (gives_qualifiedPath h (anyBound g) d inner).capture
  refine .done hpath ?_
  exact fun _ => ⟨_, rfl⟩

theorem gives_introducedType (d : Delimiter) (inner : List TokenTree) :
    Gives true (introducedType g true) ([.word w] ++ lifetimeArgs) (.group d inner :: rest)
      (.path ⟨false, false, [(w, .angle)]⟩) := by
  refine .ifNot (isWord_word h (by decide)) ?_
  refine .then (a := ((), [])) (fun _ => ⟨_, rfl⟩) ?_
  refine .then (a := [.word w] ++ lifetimeArgs ++ .group d inner :: rest) (fun _ => ⟨_, rfl⟩) ?_
  have hfn : Ahead.isWordOf ["fn", "unsafe", "extern"]
      ([.word w] ++ lifetimeArgs ++ .group d inner :: rest) = false :=
    isWordOf_word h (by decide)
  have hbuiltin : startsBuiltin ([.word w] ++ lifetimeArgs ++ .group d inner :: rest) = false :=
    Bool.and_false _
  rw [if_neg (by rw [Bool.not_eq_true]; exact hfn), if_neg (by rw [hbuiltin]; decide)]
  refine .then (a := ()) (fun _ => ⟨_, rfl⟩) ?_
  exact gives_pathType h d inner

/-- A name with a lifetime is read as a type. -/
theorem gives_typeOf (d : Delimiter) (inner : List TokenTree) :
    Gives true (typeOf g true) ([.word w] ++ lifetimeArgs) (.group d inner :: rest)
      (.path ⟨false, false, [(w, .angle)]⟩) := by
  refine .then (a := [.word w] ++ lifetimeArgs ++ .group d inner :: rest) (fun _ => ⟨_, rfl⟩) ?_
  have hpath : startsPath ([.word w] ++ lifetimeArgs ++ .group d inner :: rest) = true :=
    startsPath_word h
  have hparen : Ahead.isGroup .paren ([.word w] ++ lifetimeArgs ++ .group d inner :: rest) =
      false := rfl
  rw [if_neg (by rw [hparen]; decide), if_pos (by rw [hpath, Bool.or_true])]
  exact gives_introducedType h d inner

/-! ## Structures and implementations -/

/-- A structure with a lifetime, with a visibility and a doc comment in front. -/
theorem gives_structure (doc : String)
    (hfields : Gives true (structureRest (.ofDepth (k + 5))) [.group .brace inner] rest ()) :
    ∃ item, Gives true (itemOf (.ofDepth (k + 5)))
      (Piece.treesAll [.doc doc] ++ ([.word (.of "pub")] ++ ([.word (.of "struct")] ++ ([.word w] ++
        (lifetimeArgs ++ [.group .brace inner]))))) rest item := by
  obtain ⟨attributes, hdoc⟩ : ∃ attributes, Gives true (outerAttributes (.ofDepth (k + 5)))
      (Piece.treesAll [.doc doc]) (.word (.of "pub") :: .word (.of "struct") :: .word w ::
        (lifetimeArgs ++ .group .brace inner :: rest)) attributes :=
    ⟨[_], fun _ => ⟨_, rfl⟩⟩
  have htype : Gives true (typeItem (.ofDepth (k + 5)) attributes)
      ([.word (.of "struct")] ++ ([.word w] ++ (lifetimeArgs ++ [.group .brace inner]))) rest
      (.type attributes w) := by
    refine .bind _ (a := .of "struct") (fun _ => ⟨_, rfl⟩) ?_
    refine .bind _ (gives_ident h) ?_
    refine .bind _ gives_lifetimeArgs ?_
    exact .done hfields fun _ => ⟨_, rfl⟩
  have hitem : Gives true (itemRest (.ofDepth (k + 5)) attributes true)
      ([.word (.of "struct")] ++ ([.word w] ++ (lifetimeArgs ++ [.group .brace inner]))) rest
      (.type attributes w) :=
    fun taken => htype taken
  refine ⟨.type attributes w, .asWrittenIf ?_⟩
  refine .bind _ hdoc ?_
  refine .bind [.word (.of "pub")] (a := true) (fun _ => ⟨_, rfl⟩) ?_
  refine .done hitem ?_
  exact fun _ => ⟨_, rfl⟩

variable {fs : List (Option Function)}

/-- An implementation of a type with a lifetime is read if its members are. -/
theorem gives_implementation
    (hmembers : Gives ok (many (implementationItem (.ofDepth (k + 5)))) inner [] fs)
    (hinner : Ahead.isPunct "#" inner = false) :
    Gives ok (implementation (.ofDepth (k + 5)) false)
      ([.word (.of "impl")] ++ (lifetimeArgs ++ (([.word w] ++ lifetimeArgs) ++
        [.group .brace inner])))
      rest (.implementation (some w) (fs.filterMap id)) := by
  refine .then (a := false) (fun _ => ⟨_, rfl⟩) ?_
  refine .then (a := false) (fun _ => ⟨_, rfl⟩) ?_
  refine .bind _ (a := ()) (fun _ => ⟨_, rfl⟩) ?_
  refine .then (a := true) (fun _ => ⟨_, rfl⟩) ?_
  refine .bind _ gives_lifetimeArgs ?_
  refine .then (a := false) (gives_ahead ?_) ?_
  · exact Bool.or_eq_false_iff.2 ⟨isWord_word h (by decide), rfl⟩
  refine .otherwise ?_
  refine .then (a := false) (fun _ => ⟨_, rfl⟩) ?_
  refine .otherwise ?_
  refine .bind _ (gives_typeOf h .brace inner) ?_
  refine .then (a := false) (fun _ => ⟨_, rfl⟩) ?_
  refine .otherwise ?_
  refine .then (a := ()) (fun _ => ⟨_, rfl⟩) ?_
  refine .then (a := (some w, true)) (fun _ => ⟨_, rfl⟩) ?_
  refine .then (a := false) (fun _ => ⟨_, rfl⟩) ?_
  refine .done (a := fs) (.group .brace ?_) ?_
  · exact .then (gives_noInnerAttributes (by rwa [List.append_nil])) hmembers
  · exact fun _ => ⟨_, rfl⟩

/-- An implementation with a lifetime, with an attribute in front. -/
theorem gives_allowedImplementation {allowed : List TokenTree} {attributes : List Attribute}
    (hallowed : Gives true (outerAttributes (.ofDepth (k + 5))) allowed
      (.word (.of "impl") :: (lifetimeArgs ++ .word w ::
        (lifetimeArgs ++ .group .brace inner :: rest))) attributes)
    (hmembers : Gives ok (many (implementationItem (.ofDepth (k + 5)))) inner [] fs)
    (hinner : Ahead.isPunct "#" inner = false) :
    Gives ok (itemOf (.ofDepth (k + 5)))
      (allowed ++ ([.word (.of "impl")] ++ (lifetimeArgs ++ (([.word w] ++ lifetimeArgs) ++
        [.group .brace inner])))) rest (.implementation (some w) (fs.filterMap id)) := by
  have himpl : Gives ok (implementation (.ofDepth (k + 5)) false)
      ([.word (.of "impl")] ++ (lifetimeArgs ++ (([.word w] ++ lifetimeArgs) ++
        [.group .brace inner])))
      rest (.implementation (some w) (fs.filterMap id)) :=
    gives_implementation h hmembers hinner
  have hitem : Gives ok (itemRest (.ofDepth (k + 5)) attributes false)
      ([.word (.of "impl")] ++ (lifetimeArgs ++ (([.word w] ++ lifetimeArgs) ++
        [.group .brace inner])))
      rest (.implementation (some w) (fs.filterMap id)) :=
    fun taken => himpl taken
  refine .asWrittenIf ?_
  refine .bind _ hallowed ?_
  refine .then (a := false) (fun _ => ⟨_, rfl⟩) ?_
  refine .done hitem ?_
  exact fun _ => ⟨_, rfl⟩

end

/-! ## Types -/

/-- What the grammar makes of token trees where a type ends a list: they are one type, or none is
in front of them, or one is and there are more of them that do not go on with the list. -/
inductive OneType (g : Grammar) : List TokenTree → Bool → Prop
  | all {ts : List TokenTree} {t : TypeShape} (h : Gives true (g.type true) ts [] t) :
    OneType g ts true
  | none {ts : List TokenTree} {t : TypeShape} (h : Gives false (g.type true) ts [] t) :
    OneType g ts false
  | some {x : TokenTree} {front us : List TokenTree} {t : TypeShape} (hne : us ≠ [])
    (hcomma : Ahead.isPunct "," us = false) (h : Gives true (g.type true) (x :: front) us t) :
    OneType g (x :: (front ++ us)) false

/-- What the grammar makes of token trees, at every depth that suffices for them. -/
def IsType (ts : List TokenTree) (ok : Bool) : Prop :=
  ∀ n, 4 * TokenTree.sizeAll ts + 8 ≤ n → OneType (.ofDepth n) ts ok

/-! ## Functions -/

/-- What stands for the name of a function, and whether it is one. -/
def NamesFunction (named : Bool) (name : List TokenTree) : Prop :=
  ∀ (g : Grammar) (params body rest : List TokenTree) (ok : Bool),
    Gives ok (functionParams g (params.length + 1) true) params [] () →
    ∃ s, Gives (named && ok) (signature g)
      ([.word (.of "async"), .word (.of "fn")] ++ (name ++ [.group .paren params]))
      (.group .brace body :: rest) s

theorem namesFunction_word (h : w.text ∉ Ahead.keywords) : NamesFunction true [.word w] := by
  intro g params body rest ok hparams
  refine ⟨(w, none), ?_⟩
  refine .bind [.word (.of "async")] (a := ()) (fun _ => ⟨_, rfl⟩) ?_
  refine .bind [.word (.of "fn")] (a := ()) (fun _ => ⟨_, rfl⟩) ?_
  refine .bind _ (gives_ident h) ?_
  refine .then (a := false) (fun _ => ⟨_, rfl⟩) ?_
  refine .done (.group .paren (a := ()) ?_) ?_
  · refine .then (a := params ++ []) (fun _ => ⟨_, rfl⟩) ?_
    rwa [List.append_nil]
  · exact fun _ => ⟨_, rfl⟩

theorem namesFunction_keyword (h : w.text ∈ Ahead.keywords) : NamesFunction false [.word w] := by
  intro g params body rest ok _
  have hident : Gives false ident [.word w] ([.group .paren params] ++ .group .brace body :: rest)
      w := by
    have hahead : Ahead.isIdent ([.word w] ++ ([.group .paren params] ++
        .group .brace body :: rest)) = false := by
      simp [Ahead.isIdent, h]
    refine .then (gives_ahead hahead) ?_
    exact fun taken => ⟨taken, rfl⟩
  refine ⟨(w, none), ?_⟩
  refine .bind [.word (.of "async")] (a := ()) (fun _ => ⟨_, rfl⟩) ?_
  refine .bind [.word (.of "fn")] (a := ()) (fun _ => ⟨_, rfl⟩) ?_
  exact hident.fail _ _

/-- With a mark after its first letter, a word is two words. -/
theorem namesFunction_marked (h : w.text ∉ Ahead.keywords) (name : List TokenTree) :
    NamesFunction false ([.word w, .punct '#' false] ++ name) := by
  intro g params body rest ok _
  have hgroup : Gives false
      (group .paren do functionParams g ((← Parse.rest).length + 1) true) [.punct '#' false]
      (name ++ [.group .paren params] ++ .group .brace body :: rest) () :=
    fun taken => ⟨taken, rfl⟩
  refine ⟨(w, none), ?_⟩
  refine .bind [.word (.of "async")] (a := ()) (fun _ => ⟨_, rfl⟩) ?_
  refine .bind [.word (.of "fn")] (a := ()) (fun _ => ⟨_, rfl⟩) ?_
  refine .bind [.word w] (gives_ident h) ?_
  refine .then (a := false) (fun _ => ⟨_, rfl⟩) ?_
  exact hgroup.fail _ _

end EndpointStubs.Syntax
