import EndpointStubs.Proofs.Syntax.Running
import EndpointStubs.Source.Markers

/-!
# Lists of arguments

The arguments of a marker stand one after the other, with commas between and perhaps one behind
them. Each is an expression of the grammar, or an identifier, a sign of equality and an expression.
Nothing else is a list of arguments, however long it is: as an expression leaves an end of the
tokens it is read from, there are no more arguments than tokens.

    arguments ts = (args, true) ↔ ArgumentList (.for ts) ts args
-/

namespace EndpointStubs.Marker

open Syntax

variable {g : Grammar} {ts us rest : List TokenTree} {a : Argument} {args : List Argument}

/-! ## One argument -/

/-- A name and a sign of equality are in front. -/
def nameAhead (ts : List TokenTree) : Bool :=
  Ahead.isIdent ts && Ahead.isPunct "=" (Ahead.skip ts)

/-- The tokens `us` are an expression to a grammar that has taken `before`, the last one first, and
that goes on with `rest`. -/
def ReadsExpr (g : Grammar) (before us rest : List TokenTree) (e : ExprShape) : Prop :=
  ∃ taken, (g.expr true).run ⟨us ++ rest, before, false⟩ = some (e, ⟨rest, taken, false⟩)

/-- The tokens in the first list are an argument, where those in the second one follow. -/
inductive IsArgument (g : Grammar) : List TokenTree → List TokenTree → Argument → Prop
  | positional {us rest : List TokenTree} {e : ExprShape} : nameAhead (us ++ rest) = false →
      ReadsExpr g [] us rest e → IsArgument g us rest (.positional e)
  | named {w : Word} {joint : Bool} {us rest : List TokenTree} {e : ExprShape} :
      w.text ∉ Ahead.keywords → ReadsExpr g [.punct '=' joint, .word w] us rest e →
      IsArgument g (.word w :: .punct '=' joint :: us) rest (.named w.text e)

theorem isPuncts_singleton_iff {c : Char} : Ahead.isPuncts [c] ts = true ↔
    ∃ joint us, ts = .punct c joint :: us := by
  constructor
  · intro h
    cases ts with
    | nil => cases h
    | cons t ts =>
      cases t with
      | punct d joint =>
        obtain rfl : c = d := by simpa [Ahead.isPuncts] using h
        exact ⟨joint, ts, rfl⟩
      | word w => cases h
      | literal text => cases h
      | group d inner => cases h
  · rintro ⟨joint, us, rfl⟩
    simp [Ahead.isPuncts]

theorem isIdent_iff : Ahead.isIdent ts = true ↔
    ∃ w us, ts = .word w :: us ∧ w.text ∉ Ahead.keywords := by
  constructor
  · intro h
    cases ts with
    | nil => cases h
    | cons t ts =>
      cases t with
      | word w => exact ⟨w, ts, rfl, by simpa [Ahead.isIdent] using h⟩
      | punct c joint => cases h
      | literal text => cases h
      | group d inner => cases h
  · rintro ⟨w, us, rfl, hw⟩
    simp [Ahead.isIdent, hw]

/-- A name in front is an identifier and a sign of equality. -/
theorem nameAhead_iff : nameAhead ts = true ↔
    ∃ w joint us, ts = .word w :: .punct '=' joint :: us ∧ w.text ∉ Ahead.keywords := by
  unfold nameAhead
  rw [Bool.and_eq_true, isIdent_iff]
  constructor
  · rintro ⟨⟨w, us, rfl, hw⟩, hpunct⟩
    obtain ⟨joint, us, rfl⟩ := isPuncts_singleton_iff.1 hpunct
    exact ⟨w, joint, us, rfl, hw⟩
  · rintro ⟨w, joint, us, rfl, hw⟩
    exact ⟨⟨w, _, rfl, hw⟩, isPuncts_singleton_iff.2 ⟨joint, us, rfl⟩⟩

theorem run_ident {w : Word} (hw : w.text ∉ Ahead.keywords) (taken : List TokenTree) :
    Parse.ident.run ⟨.word w :: ts, taken, false⟩ = some (w, ⟨ts, .word w :: taken, false⟩) := by
  have hident : Ahead.isIdent (.word w :: ts) = true := isIdent_iff.2 ⟨w, ts, rfl, hw⟩
  have hrun : Parse.ident.run ⟨.word w :: ts, taken, false⟩ =
      (Parse.require (Ahead.isIdent (.word w :: ts)) >>= fun _ => Parse.anyWord).run
        ⟨.word w :: ts, taken, false⟩ := rfl
  rw [hrun, hident]
  rfl

theorem run_argument : (argument g).run { rest := ts } =
    (if nameAhead ts = true then do
        let name ← Parse.ident
        Parse.punct "="
        return .named name.text (← g.expr true)
      else do return .positional (← g.expr true) : Parse Argument).run { rest := ts } := rfl

/-- Without a name in front, an argument is an expression. -/
theorem run_argument_of_no_name (h : nameAhead ts = false) :
    (argument g).run { rest := ts } =
      ((g.expr true).run { rest := ts }).map fun r => (.positional r.1, r.2) := by
  rw [run_argument, h, if_neg Bool.false_ne_true, Parse.run_bind]
  cases (g.expr true).run { rest := ts } <;> rfl

/-- Behind a name and its sign of equality, an argument is an expression. -/
theorem run_argument_of_name {w : Word} {joint : Bool} (hw : w.text ∉ Ahead.keywords) :
    (argument g).run { rest := .word w :: .punct '=' joint :: us } =
      ((g.expr true).run ⟨us, [.punct '=' joint, .word w], false⟩).map fun r =>
        (.named w.text r.1, r.2) := by
  have hname : nameAhead (.word w :: .punct '=' joint :: us) = true :=
    nameAhead_iff.2 ⟨w, joint, us, rfl, hw⟩
  have hpunct : (Parse.punct "=").run ⟨.punct '=' joint :: us, [.word w], false⟩ =
      some ((), ⟨us, [.punct '=' joint, .word w], false⟩) := rfl
  rw [run_argument, hname, if_pos rfl, Parse.run_bind, run_ident hw, Option.bind_some,
    Parse.run_bind, hpunct, Option.bind_some, Parse.run_bind]
  cases (g.expr true).run ⟨us, [.punct '=' joint, .word w], false⟩ <;> rfl

theorem run_argument_eq_some_iff : (∃ taken, (argument g).run { rest := ts } =
      some (a, ⟨rest, taken, false⟩)) ↔ ∃ us, ts = us ++ rest ∧ IsArgument g us rest a := by
  constructor
  · rintro ⟨taken, h⟩
    cases hname : nameAhead ts with
    | false =>
      rw [run_argument_of_no_name hname] at h
      obtain ⟨⟨e, c⟩, hexpr, ⟨⟩⟩ := Option.map_eq_some_iff.1 h
      obtain ⟨us, rfl⟩ := (g.expr true).leavesEnd hexpr
      exact ⟨us, rfl, .positional hname ⟨taken, hexpr⟩⟩
    | true =>
      obtain ⟨w, joint, ts, rfl, hw⟩ := nameAhead_iff.1 hname
      rw [run_argument_of_name hw] at h
      obtain ⟨⟨e, c⟩, hexpr, ⟨⟩⟩ := Option.map_eq_some_iff.1 h
      obtain ⟨us, rfl⟩ := (g.expr true).leavesEnd hexpr
      exact ⟨.word w :: .punct '=' joint :: us, rfl, .named hw ⟨taken, hexpr⟩⟩
  · rintro ⟨us, rfl, h⟩
    cases h with
    | positional hname hexpr =>
      obtain ⟨taken, hexpr⟩ := hexpr
      refine ⟨taken, ?_⟩
      rw [run_argument_of_no_name hname, hexpr]
      rfl
    | named hw hexpr =>
      obtain ⟨taken, hexpr⟩ := hexpr
      refine ⟨taken, ?_⟩
      rw [List.cons_append, List.cons_append, run_argument_of_name hw, hexpr]
      rfl

/-! ## Lists -/

/-- Arguments with commas between; one may come last. -/
inductive ArgumentList (g : Grammar) : List TokenTree → List Argument → Prop
  | nil : ArgumentList g [] []
  | last {us : List TokenTree} {a : Argument} : us ≠ [] → IsArgument g us [] a →
      ArgumentList g us [a]
  | cons {us rest : List TokenTree} {joint : Bool} {a : Argument} {args : List Argument} :
      IsArgument g us (.punct ',' joint :: rest) a → ArgumentList g rest args →
      ArgumentList g (us ++ .punct ',' joint :: rest) (a :: args)

theorem argumentsUpTo_succ (n : Nat) (hne : ts ≠ []) : argumentsUpTo g (n + 1) ts =
    match (argument g).run { rest := ts } with
    | none => ([], false)
    | some (a, c) =>
      if c.rest.isEmpty then ([a], !c.leftover)
      else if Ahead.isPunct "," c.rest then
        (a :: (argumentsUpTo g n (c.rest.drop 1)).1,
          (argumentsUpTo g n (c.rest.drop 1)).2 && !c.leftover)
      else ([a], false) := by
  obtain ⟨t, ts, rfl⟩ := List.exists_cons_of_ne_nil hne
  rfl

/-- Arguments that are read to the end are a list of arguments. -/
theorem argumentList_of_argumentsUpTo (n : Nat) (h : argumentsUpTo g n ts = (args, true)) :
    ArgumentList g ts args := by
  induction n generalizing ts args with
  | zero => cases h
  | succ n ih =>
    by_cases hne : ts = []
    · subst hne
      cases h
      exact .nil
    · rw [argumentsUpTo_succ n hne] at h
      cases hrun : (argument g).run { rest := ts } with
      | none =>
        rw [hrun] at h
        cases h
      | some r =>
        obtain ⟨a, rest, taken, leftover⟩ := r
        rw [hrun] at h
        simp only at h
        split at h
        · rename_i hempty
          obtain rfl : rest = [] := List.isEmpty_iff.1 hempty
          obtain ⟨rfl, hleft⟩ := Prod.mk.inj h
          obtain rfl : leftover = false := by simpa using hleft
          obtain ⟨us, rfl, ha⟩ := run_argument_eq_some_iff.1 ⟨taken, hrun⟩
          rw [List.append_nil] at hne ⊢
          exact .last hne ha
        · split at h
          · rename_i hcomma
            obtain ⟨joint, rest, rfl⟩ := isPuncts_singleton_iff.1 hcomma
            obtain ⟨rfl, hboth⟩ := Prod.mk.inj h
            obtain ⟨hothers, hleft⟩ := Bool.and_eq_true_iff.1 hboth
            obtain rfl : leftover = false := by simpa using hleft
            obtain ⟨us, rfl, ha⟩ := run_argument_eq_some_iff.1 ⟨taken, hrun⟩
            exact .cons ha (ih (Prod.ext rfl hothers))
          · cases h

/-- A list of arguments is read to its end, given enough steps. -/
theorem ArgumentList.argumentsUpTo_eq (h : ArgumentList g ts args) {n : Nat}
    (hn : ts.length < n) : argumentsUpTo g n ts = (args, true) := by
  induction h generalizing n with
  | nil =>
    obtain ⟨n, rfl⟩ := Nat.exists_eq_succ_of_ne_zero (Nat.ne_of_gt hn)
    rfl
  | @last us a hne ha =>
    obtain ⟨n, rfl⟩ := Nat.exists_eq_succ_of_ne_zero (by omega : n ≠ 0)
    obtain ⟨taken, hrun⟩ := run_argument_eq_some_iff.2 ⟨us, (List.append_nil us).symm, ha⟩
    rw [argumentsUpTo_succ n hne, hrun]
    rfl
  | @cons us rest joint a args ha _ ih =>
    obtain ⟨n, rfl⟩ := Nat.exists_eq_succ_of_ne_zero (by omega : n ≠ 0)
    obtain ⟨taken, hrun⟩ := run_argument_eq_some_iff.2 ⟨us, rfl, ha⟩
    have hrest : rest.length < n := by
      simp only [List.length_append, List.length_cons] at hn
      omega
    have hcomma : Ahead.isPunct "," (.punct ',' joint :: rest) = true :=
      isPuncts_singleton_iff.2 ⟨joint, rest, rfl⟩
    rw [argumentsUpTo_succ n (by simp), hrun]
    simp only [List.isEmpty_cons, Bool.false_eq_true, if_false, hcomma, if_true,
      List.drop_one, List.tail_cons, ih hrest, Bool.not_false, Bool.and_true]

/-- Tokens are read to their end just if they are a list of arguments. -/
theorem arguments_eq_iff :
    arguments ts = (args, true) ↔ ArgumentList (.for ts) ts args :=
  ⟨argumentList_of_argumentsUpTo _, fun h => h.argumentsUpTo_eq (Nat.lt_succ_self _)⟩

/-- Tokens are one list of arguments at most. -/
theorem ArgumentList.unique {args' : List Argument} (h : ArgumentList (.for ts) ts args)
    (h' : ArgumentList (.for ts) ts args') : args = args' := by
  have hboth := (arguments_eq_iff.2 h).symm.trans (arguments_eq_iff.2 h')
  exact congrArg Prod.fst hboth

end EndpointStubs.Marker
