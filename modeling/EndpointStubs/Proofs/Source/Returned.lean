import EndpointStubs.Proofs.ResponseType
import EndpointStubs.Proofs.Scan.ClosedForm
import EndpointStubs.Proofs.Session
import EndpointStubs.Proofs.Syntax.ReturnTypes
import EndpointStubs.Source.Collect

/-!
# Returned types and response types

The text of a type starts with no blank, and with `()` only if the type is `()`. So the response
type of a route is the text of the type that its function returns, unless that text ends in `()`,
and it is empty only where no type is named or the type is `()`.

    (scan ds).responseType = compactText ts  ↔  the text does not end in ()
    (scan ds).responseType = ""              ↔  ts = ()
-/

namespace EndpointStubs

open Syntax TokenTree

variable {ts : List TokenTree}

/-! ## How the text of a type starts -/

namespace Syntax

theorem Word.exists_text (w : Word) : ∃ c cs, w.text.toList = c :: cs ∧ Text.isBlank c = false ∧
    c ∉ ['(', ')', ','] := by
  obtain ⟨c, cs, hl, hc, -⟩ := w.exists_letters
  rw [Word.toList_text, hl]
  cases w.raw with
  | true => exact ⟨'r', '#' :: c :: cs, rfl, by decide, by decide⟩
  | false =>
    refine ⟨c, cs, rfl, ?_, ?_⟩
    · have hblank := Lexer.isBlank_of_isWordStart hc
      rw [Lexer.isBlank, Bool.or_eq_false_iff, Bool.or_eq_false_iff] at hblank
      exact hblank.1.1
    · obtain ⟨hnot, hpunct⟩ := Lexer.ne_of_isWordStart hc
      simp only [List.mem_cons, List.not_mem_nil, or_false, not_or] at hnot ⊢
      refine ⟨hnot.2.2.2.1, hnot.2.2.2.2.1, ?_⟩
      rintro rfl
      exact hpunct (by decide)

/-- The first character of a token that a type starts with. -/
theorem exists_print_of_opens {t : TokenTree} (h : t.opens = true) : ∃ c cs,
    t.print = c :: cs ∧ Text.isBlank c = false ∧ c ∉ ['(', ')', ','] := by
  cases t with
  | word w =>
    rw [print]
    exact w.exists_text
  | punct c joint =>
    have hopeners : ∀ c ∈ openers, Text.isBlank c = false ∧ c ∉ ['(', ')', ','] :=
      List.all_iff_forall_prop.1 (by decide)
    rw [opens, List.contains_iff_mem] at h
    obtain ⟨hblank, hnot⟩ := hopeners c h
    exact ⟨c, [], by rw [print], hblank, hnot⟩
  | literal text => cases h
  | group d inner =>
    obtain rfl : d = .bracket := by simpa [opens] using h
    exact ⟨'[', _, print_group_of_ne (by decide), by decide, by decide⟩

theorem Starts.exists_printAll (h : Starts ts) : ∃ c cs, printAll ts = c :: cs ∧
    Text.isBlank c = false ∧ c ∉ [')', ','] := by
  obtain ⟨t, us, rfl, ht | ⟨inner, rfl⟩⟩ := h
  · obtain ⟨c, cs, hprint, hblank, hnot⟩ := exists_print_of_opens ht
    rw [printAll_cons, hprint]
    exact ⟨c, _, rfl, hblank, fun h => hnot (List.mem_cons_of_mem _ h)⟩
  · rw [printAll_cons, print_group_of_ne (by decide)]
    exact ⟨'(', _, rfl, by decide, by decide⟩

/-- The text starts neither with a blank nor with `()`. -/
theorem Begins.exists_compact (h : Begins ts) : ∃ c cs, compact (printAll ts) = c :: cs ∧
    Text.isBlank c = false ∧ (c = '(' → cs.head? ≠ some ')') := by
  obtain ⟨t, us, rfl, ht | ⟨inner, rfl, hinner⟩⟩ := h
  · obtain ⟨c, cs, hprint, hblank, hnot⟩ := exists_print_of_opens ht
    have hcomma : c ≠ ',' := by
      rintro rfl
      exact hnot (by decide)
    have hcompact : compact (printAll (t :: us)) =
        c :: compactAfter (some c) (cs ++ (gap t us ++ printAll us)) := by
      rw [printAll_cons, hprint]
      exact compactAfter_cons hblank hcomma
    refine ⟨c, _, hcompact, hblank, ?_⟩
    rintro rfl
    exact absurd List.mem_cons_self hnot
  · obtain ⟨c, cs, hprint, hblank, hnot⟩ := hinner.exists_printAll
    have hcompact : compact (printAll (.group .paren inner :: us)) =
        '(' :: compactAfter (some '(') (c :: (cs ++ [')'] ++ (gap (.group .paren inner) us ++
          printAll us))) := by
      rw [printAll_cons, print_group_of_ne (by decide), hprint]
      exact compactAfter_cons (by decide) (by decide)
    refine ⟨'(', _, hcompact, by decide, fun _ => ?_⟩
    rw [head?_compactAfter hblank]
    rintro ⟨rfl⟩
    exact hnot List.mem_cons_self

end Syntax

/-! ## The response type -/

namespace ResponseType

theorem compactText_unit : compactText [.group .paren []] = "()" := by decide +kernel

/-- The compact text of a type does not start with a blank. -/
theorem head?_compactText {t : TypeShape} (h : AreTypeTokens t ts) :
    (compactText ts).toList.head?.any Text.isBlank = false := by
  obtain ⟨-, rfl⟩ | hbegins := h
  · rw [compactText_unit]
    decide
  · obtain ⟨c, cs, hcompact, hblank, -⟩ := hbegins.exists_compact
    rw [compactText, String.toList_ofList, hcompact]
    simpa using hblank

/-- The response type of a returned type is its text, if that does not end in `()`. -/
theorem ofDeclared_compactText_eq_self_iff {t : TypeShape} (h : AreTypeTokens t ts) :
    ofDeclared (compactText ts) = compactText ts ↔ ¬['(', ')'] <:+ (compactText ts).toList := by
  have hchars : ofDeclared (compactText ts) = compactText ts ↔
      normalize (compactText ts).toList = (compactText ts).toList := by
    rw [← String.toList_inj, ofDeclared, String.toList_ofList]
  rw [hchars]
  constructor
  · rintro hself ⟨front, hfront⟩
    exact (hself ▸ isBare_normalize _ : IsBare (compactText ts).toList).noMark front hfront.symm
  · intro hsuffix
    refine normalize_eq_self (head?_compactText h) ⟨fun front c hlast => ?_, fun front hfront => ?_⟩
    · have hstop := (isCompact_compact (printAll ts)).stop
      rw [compactText, String.toList_ofList] at hlast
      rw [hlast, List.getLast?_concat] at hstop
      exact hstop
    · exact hsuffix ⟨front, hfront.symm⟩

/-- It is empty only for `()`. -/
theorem ofDeclared_compactText_eq_empty_iff {t : TypeShape} (h : AreTypeTokens t ts) :
    ofDeclared (compactText ts) = "" ↔ ts = [.group .paren []] := by
  constructor
  · intro hempty
    obtain ⟨-, hunit⟩ | hbegins := h
    · exact hunit
    · obtain ⟨c, cs, hcompact, hblank, hnext⟩ := hbegins.exists_compact
      have hnormalize : normalize (c :: cs) = [] := by
        rw [ofDeclared, compactText, String.toList_ofList, hcompact] at hempty
        exact String.ofList_injective hempty
      obtain ⟨⟨m, hm, htrim⟩, -⟩ := normalize_eq_iff.1 hnormalize
      rw [trimStart_eq_self (by simpa using hblank), List.nil_append] at htrim
      subst htrim
      cases hm with
      | blank hc _ =>
        rw [hblank] at hc
        cases hc
      | mark _ => exact absurd rfl (hnext rfl)
  · rintro rfl
    rw [compactText_unit]
    decide

end ResponseType

/-! ## Routes -/

/-- The response type is that of the last GET route. -/
theorem responseType_scan {ds : List Declaration} {d : Declaration}
    (h : (getRoutes ds).getLast? = some d) :
    (scan ds).responseType = ResponseType.ofDeclared (d.declaredType.getD "") := by
  rw [scan_eq_of_lists, EndpointModel.responseType, EndpointModel.ofLast, h]
  rfl

/-- A marked function has a declared type. -/
theorem declaredType_of_ofFunction {scope : String} {f : Function} {d : Declaration}
    (h : Source.ofFunction scope f = .ok [d]) : d.declaredType = some (Source.declaredType f) := by
  unfold Source.ofFunction Source.marked at h
  cases hmarkers : Marker.ofAttributes f.attributes with
  | error e =>
    rw [hmarkers] at h
    cases h
  | ok markers =>
    rw [hmarkers] at h
    have hds := Except.ok.inj h
    split at hds
    · cases hds
    · obtain rfl := List.singleton_inj.1 hds
      rfl

/-- A function in a text returns the type with a text, and has the declaration in a scope. -/
def Source.returnsIn (text scope returned : String) (d : Declaration) : Bool :=
  (fileItems? text).any fun items => (functionsOf items).any fun f =>
    decide (f.returns?.map compactText = some returned) &&
      decide ((ofFunction scope f).toOption = some [d])

theorem Source.exists_of_returnsIn {text scope returned : String} {d : Declaration}
    (h : returnsIn text scope returned d = true) : ∃ items f ts, fileItems? text = some items ∧
      f ∈ functionsOf items ∧ f.returns? = some ts ∧ compactText ts = returned ∧
      ofFunction scope f = .ok [d] := by
  obtain ⟨items, hitems, hfunctions⟩ := (Option.any_eq_true _ _).1 h
  obtain ⟨f, hf, hboth⟩ := List.any_eq_true.1 hfunctions
  obtain ⟨hreturns, hd⟩ := Bool.and_eq_true_iff.1 hboth
  obtain ⟨ts, hts, htext⟩ := Option.map_eq_some_iff.1 (of_decide_eq_true hreturns)
  refine ⟨items, f, ts, hitems, hf, hts, htext, ?_⟩
  have hd := of_decide_eq_true hd
  cases hr : ofFunction scope f with
  | error e =>
    rw [hr] at hd
    cases hd
  | ok ds =>
    rw [hr] at hd
    rw [Option.some.inj hd]

/-- **The response type of a returned type.** The last GET route of a round, where it is a function
of a source, gives the text of the type that it returns, unless the text ends in `()`. The response
type is empty just if the function names no type or the type `()`. -/
theorem responseType_of_returned {text scope : String} {items : List Item} {f : Function}
    {d : Declaration} {ds : List Declaration} (hitems : fileItems? text = some items)
    (hf : f ∈ functionsOf items) (hd : Source.ofFunction scope f = .ok [d])
    (hlast : (getRoutes ds).getLast? = some d) :
    (f.returns? = none → (scan ds).responseType = "") ∧
    ∀ ts, f.returns? = some ts →
      ((scan ds).responseType = compactText ts ↔ ¬['(', ')'] <:+ (compactText ts).toList) ∧
      ((scan ds).responseType = "" ↔ ts = [.group .paren []]) := by
  have hresponse := responseType_scan hlast
  rw [declaredType_of_ofFunction hd, Option.getD_some, Source.declaredType] at hresponse
  refine ⟨fun hnone => ?_, fun ts hts => ?_⟩
  · rw [hresponse, hnone]
    decide
  · obtain ⟨t, htokens⟩ := returnsType_of_fileItems? hitems hf ts hts
    rw [hresponse, hts]
    exact ⟨ResponseType.ofDeclared_compactText_eq_self_iff htokens,
      ResponseType.ofDeclared_compactText_eq_empty_iff htokens⟩

/-- A handler whose response type is the type that it returns. -/
theorem responseType_of_orders :
    let text := "#[get_mapping] fn orders() -> Json<Order> \x7b list() \x7d"
    let d : Declaration := { name := "acme.orders", markers := [{ kind := .getMapping }],
                             declaredType := some "Json<Order>" }
    ∃ items f ts, fileItems? text = some items ∧ f ∈ functionsOf items ∧
      Source.ofFunction "acme" f = .ok [d] ∧ (getRoutes [d]).getLast? = some d ∧
      f.returns? = some ts ∧ (scan [d]).responseType = compactText ts := by
  intro text d
  have hfound : Source.returnsIn text "acme" "Json<Order>" d = true := by decide +kernel
  obtain ⟨items, f, ts, hitems, hf, hts, htext, hd⟩ := Source.exists_of_returnsIn hfound
  have hlast : (getRoutes [d]).getLast? = some d := by decide
  refine ⟨items, f, ts, hitems, hf, hd, hlast, hts, ?_⟩
  refine ((responseType_of_returned hitems hf hd hlast).2 ts hts).1.2 ?_
  rw [htext]
  decide

/-- A handler that returns a function: its response type is a keyword, and no type. -/
theorem responseType_of_callback :
    let text := "#[get_mapping] fn callback() -> fn() \x7b run \x7d"
    let o : Origins := { sources := [⟨"src"⟩] }
    let w : World :=
      { tree := ⟨[(["w"], .directory), (["w", "src"], .directory),
          (["w", "src", "lib.rs"], .file text.toUTF8)], ["w"]⟩ }
    let d : Declaration := { name := "callback", markers := [{ kind := .getMapping }],
                             declaredType := some "fn()" }
    (∃ items f ts, fileItems? text = some items ∧ f ∈ functionsOf items ∧
        f.returns? = some ts ∧ ts ≠ [.group .paren []] ∧ compactText ts = "fn()" ∧
        Source.ofFunction "" f = .ok [d]) ∧
      (∃ w', o.collect.runOn w = (.ok (.ofDeclarations [d]), w')) ∧
      (scan [d]).responseType = "fn" ∧ typeText? "fn" = none := by
  intro text o w d
  have hfound : Source.returnsIn text "" "fn()" d = true := by decide +kernel
  obtain ⟨items, f, ts, hitems, hf, hts, htext, hd⟩ := Source.exists_of_returnsIn hfound
  have hunit : ts ≠ [.group .paren []] := by
    rintro rfl
    rw [ResponseType.compactText_unit] at htext
    revert htext
    decide
  exact ⟨⟨items, f, ts, hitems, hf, hts, hunit, htext, hd⟩,
    Session.exists_runOn_of_toOption (by decide +kernel), by decide +kernel, by decide +kernel⟩

end EndpointStubs
