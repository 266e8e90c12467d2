import EndpointStubs.Proofs.Syntax.Items

/-!
# Attributes and texts

What parsers make of an attribute whose path is one word, and of a literal where an expression is
asked for. The word has only to be no keyword, and the literal to be one of characters.

    literalText? text = some s → Gives true (exprOf g true) [.literal text] [] (.text s)
-/

namespace EndpointStubs.Syntax

open Parse

variable {g : Grammar} {text s : String} {us rest : List TokenTree} {w : Word} {n : Nat}
  {e : ExprShape}

/-! ## Expressions -/

/-- What a literal stands for. -/
theorem gives_exprText (h : literal.literalText? text.toList = some s) :
    Gives true (exprOf g true) [.literal text] [] (.text s) := by
  obtain ⟨e, hunary, rfl⟩ :
      ∃ e, Gives true (unaryOf g true) [.literal text] [] e ∧ e = .text s := by
    refine ⟨_, fun _ => ⟨_, rfl⟩, ?_⟩
    rw [h]
  exact hunary.done fun _ => ⟨_, rfl⟩

/-- A list with one item. -/
theorem gives_exprArray (h : Gives true (exprOf (.ofDepth n) true) us [] e) (hne : us ≠ []) :
    Gives true (exprOf (.ofDepth (n + 1)) true) [.group .bracket us] [] (.array [e]) := by
  have hitem : Gives true ((Grammar.ofDepth (n + 1)).expr true) us [] e := fun taken => h taken
  have hlist : Gives true (bracketExpr (.ofDepth (n + 1))) [.group .bracket us] []
      (.array [e]) := by
    apply Gives.group
    refine .ifNot (by simpa using hne) ?_
    exact hitem.done fun _ => ⟨_, rfl⟩
  have hatom : Gives true (atom (.ofDepth (n + 1)) true) [.group .bracket us] [] (.array [e]) :=
    fun taken => hlist taken
  have hunary : Gives true (unaryOf (.ofDepth (n + 1)) true) [.group .bracket us] []
      (.array [e]) := by
    refine .then (gives_noAttributes rfl) ?_
    refine .then (a := [.group .bracket us]) (fun _ => ⟨_, rfl⟩) ?_
    refine .otherwise ?_
    refine .otherwise ?_
    exact hatom.done fun _ => ⟨_, rfl⟩
  exact hunary.done fun _ => ⟨_, rfl⟩

/-! ## Attributes -/

theorem gives_plainPath (h : w.text ∉ Ahead.keywords) (hrest : Ahead.isPunct "::" rest = false) :
    Gives true plainPath [.word w] rest [w.text] := by
  have hcolons : Gives true (punct? "::") [] rest false := .ifNot hrest fun _ => ⟨_, rfl⟩
  refine .then (a := false) (fun _ => ⟨_, rfl⟩) ?_
  refine .then (a := .word w :: rest) (fun _ => ⟨_, rfl⟩) ?_
  refine .then (a := true) (gives_ahead ?_) ?_
  · exact Bool.or_eq_true_iff.2 (.inl (isIdent_word h))
  refine .then (a := ()) (fun _ => ⟨_, rfl⟩) ?_
  refine .bind [.word w] (a := w) (fun _ => ⟨_, rfl⟩) ?_
  exact .then hcolons fun _ => ⟨_, rfl⟩

theorem gives_attributeTokens (d : Delimiter) (us : List TokenTree) :
    Gives true (attributeArgs g) [.group d us] [] (.tokens us) :=
  fun _ => ⟨_, rfl⟩

theorem gives_attributeText (h : literal.literalText? text.toList = some s) (joint : Bool) :
    Gives true (attributeArgs g) [.punct '=' joint, .literal text] [] (.value (.text s)) := by
  obtain ⟨e, hvalue, rfl⟩ : ∃ e, Gives true (attributeArgs g)
      [.punct '=' joint, .literal text] [] (.value e) ∧ e = .text s := by
    refine ⟨_, fun _ => ⟨_, rfl⟩, ?_⟩
    rw [h]
  exact hvalue

/-- A name and its arguments are the body of an attribute. -/
theorem gives_attributeBody {args : AttributeArgs} (h : w.text ∉ Ahead.keywords)
    (hus : Ahead.isPunct "::" us = false) (hargs : Gives true (attributeArgs g) us [] args) :
    Gives true (attributeBody g) ([.word w] ++ us) [] ⟨w.text, args⟩ := by
  have hunsafe : Gives true (word? "unsafe") [] ([.word w] ++ us ++ []) false :=
    .ifNot (isWord_word h (by decide)) fun _ => ⟨_, rfl⟩
  refine .then hunsafe ?_
  refine .bind _ (gives_plainPath h (by rwa [List.append_nil])) ?_
  exact hargs.done fun _ => ⟨_, rfl⟩

/-- The only attribute in front of something. -/
theorem gives_outerAttribute {a : Attribute} {joint : Bool}
    (h : Gives true (attributeBody g) us [] a) (hrest : Ahead.isPunct "#" rest = false) :
    Gives true (outerAttributes g) [.punct '#' joint, .group .bracket us] rest [a] := by
  have hone : Gives true (outerAttribute g) [.punct '#' joint, .group .bracket us] rest a :=
    .bind [_] (a := ()) (fun _ => ⟨_, rfl⟩) (.group .bracket h)
  have hnone {n : Nat} : Gives true (attributesWhile (Ahead.isPunct "#") (outerAttribute g) (n + 1))
      [] rest [] := .ifNot hrest fun _ => ⟨_, rfl⟩
  refine .then (a := .punct '#' joint :: .group .bracket us :: rest) (fun _ => ⟨_, rfl⟩) ?_
  refine .then (a := true) (fun _ => ⟨_, rfl⟩) ?_
  refine .done hone ?_
  exact .then hnone fun _ => ⟨_, rfl⟩

end EndpointStubs.Syntax
