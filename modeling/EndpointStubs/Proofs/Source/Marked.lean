import EndpointStubs.Proofs.Source.Entries
import EndpointStubs.Proofs.Syntax.Attributes

/-!
# The markers of attributes

Of attributes in a row, those with the name of a kind are markers, unless what follows such a name
is faulty. Only the order of paths among paths and of values among values matters, and there are
five ways to write one text.

    ofAttributes as = .ok ms ↔ List.Forall₂ Marks (as.filter isMarker) ms
    (∃ e, ofAttributes as = .error e) ↔ ∃ a ∈ as, Faulty a
-/

namespace EndpointStubs

theorem MarkerKind.ofName?_eq_some_iff {s : String} {k : MarkerKind} :
    ofName? s = some k ↔ s = k.name := by
  constructor
  · intro h
    have hname := List.find?_some h
    simpa [eq_comm] using hname
  · rintro rfl
    exact ofName?_name k

namespace Marker

open Syntax
open Source (inTurn)

variable {e : ExprShape} {ts us : List TokenTree} {args : List Argument} {kind : MarkerKind}
  {a : Attribute} {as : List Attribute}

/-! ## Attributes -/

/-- The attribute has the name of a kind. -/
def isMarker (a : Attribute) : Bool := (MarkerKind.ofName? a.name).isSome

structure Marks (a : Attribute) (m : Marker) : Prop where
  name : a.name = m.kind.name
  entries : HasEntries a.args m.path m.value

/-- The attribute has the name of a kind, but is no marker. -/
structure Faulty (a : Attribute) : Prop where
  name : isMarker a = true
  args : IsFaulty a.args

/-- The markers that an attribute is by itself, one or none. -/
def ofOne (a : Attribute) : Except MarkerError (List Marker) := (ofAttribute a).map Option.toList

theorem ofOne_of_name (h : MarkerKind.ofName? a.name = some kind) :
    ofOne a = (ofArgs kind a.args).map fun m => [m] := by
  unfold ofOne ofAttribute
  rw [h]
  cases a.args with
  | none => rfl
  | tokens ts => cases ht : ofTokens kind ts <;> simp [ht, ofArgs, Except.map]
  | value e => cases he : entries e <;> simp [he, ofArgs, Except.map]

theorem ofOne_of_no_name (h : isMarker a = false) : ofOne a = .ok [] := by
  have hnone : MarkerKind.ofName? a.name = none := by simpa [isMarker] using h
  unfold ofOne ofAttribute
  rw [hnone]
  rfl

theorem ofOne_eq_ok_iff (h : isMarker a = true) {ms : List Marker} :
    ofOne a = .ok ms ↔ ∃ m, Marks a m ∧ ms = [m] := by
  obtain ⟨kind, hkind⟩ := Option.isSome_iff_exists.1 h
  rw [ofOne_of_name hkind, Source.map_eq_ok_iff]
  refine exists_congr fun m => and_congr_left' ?_
  rw [ofArgs_eq_ok_iff]
  have hname : a.name = m.kind.name ↔ kind = m.kind := by
    rw [← MarkerKind.ofName?_eq_some_iff, hkind, Option.some_inj]
  exact ⟨fun hm => ⟨hname.2 hm.1, hm.2⟩, fun hm => ⟨hname.1 hm.name, hm.entries⟩⟩

theorem exists_ofOne_eq_error_iff : (∃ err, ofOne a = .error err) ↔ Faulty a := by
  cases hmarker : isMarker a with
  | false =>
    rw [ofOne_of_no_name hmarker]
    constructor
    · rintro ⟨err, herr⟩
      cases herr
    · intro h
      rw [h.name] at hmarker
      cases hmarker
  | true =>
    obtain ⟨kind, hkind⟩ := Option.isSome_iff_exists.1 hmarker
    simp only [ofOne_of_name hkind, Source.map_eq_error_iff, exists_ofArgs_eq_error_iff]
    exact ⟨fun h => ⟨hmarker, h⟩, fun h => h.args⟩

theorem ofAttributes_eq_inTurn (as : List Attribute) : ofAttributes as = inTurn ofOne as := by
  have hflatten (ms : List (Option Marker)) : ms.filterMap id = (ms.map Option.toList).flatten := by
    induction ms with
    | nil => rfl
    | cons x ms ih =>
      cases x with
      | none => exact ih
      | some m => exact congrArg (m :: ·) ih
  unfold ofAttributes inTurn ofOne
  rw [Source.mapM_map_ok]
  cases as.mapM ofAttribute with
  | error err => rfl
  | ok ms => exact congrArg Except.ok (hflatten ms)

/-- The markers are those of the attributes with the name of a kind, in order. -/
theorem ofAttributes_eq_ok_iff {ms : List Marker} :
    ofAttributes as = .ok ms ↔ List.Forall₂ Marks (as.filter isMarker) ms := by
  have hone : ∀ a ∈ as.filter isMarker, ∀ ms, ofOne a = .ok ms ↔ ∃ m, Marks a m ∧ ms = [m] :=
    fun a ha ms => ofOne_eq_ok_iff (List.mem_filter.1 ha).2
  rw [ofAttributes_eq_inTurn, ← Source.inTurn_filter fun a _ => ofOne_of_no_name,
    Source.inTurn_eq_ok_iff_of hone]
  generalize as.filter isMarker = bs
  constructor
  · rintro ⟨mss, hmss, rfl⟩
    induction hmss with
    | nil => exact .nil
    | cons ha _ ih =>
      obtain ⟨m, hm, rfl⟩ := ha
      exact .cons hm ih
  · intro h
    induction h with
    | nil => exact ⟨[], .nil, rfl⟩
    | @cons a m _ ms hm _ ih =>
      obtain ⟨mss, hmss, rfl⟩ := ih
      exact ⟨[m] :: mss, .cons ⟨m, hm, rfl⟩ hmss, rfl⟩

theorem exists_ofAttributes_eq_error_iff :
    (∃ err, ofAttributes as = .error err) ↔ ∃ a ∈ as, Faulty a := by
  simp only [ofAttributes_eq_inTurn, Source.exists_inTurn_eq_error_iff, exists_ofOne_eq_error_iff]

/-- Only the entries of an attribute matter, and which name it has. -/
theorem ofAttributes_congr {b : Attribute} (hname : a.name = b.name)
    (h : ∀ path value, HasEntries a.args path value ↔ HasEntries b.args path value)
    (before after : List Attribute) (ms : List Marker) :
    ofAttributes (before ++ a :: after) = .ok ms ↔
      ofAttributes (before ++ b :: after) = .ok ms := by
  have hmarks (m : Marker) : Marks a m ↔ Marks b m :=
    ⟨fun hm => ⟨hname ▸ hm.name, (h _ _).1 hm.entries⟩,
      fun hm => ⟨hname ▸ hm.name, (h _ _).2 hm.entries⟩⟩
  have hmarker : isMarker a = isMarker b := by
    unfold isMarker
    rw [hname]
  have hone (xs : List Marker) : inTurn ofOne [a] = .ok xs ↔ inTurn ofOne [b] = .ok xs := by
    rw [Source.inTurn_singleton, Source.inTurn_singleton]
    cases hb : isMarker b with
    | false => rw [ofOne_of_no_name hb, ofOne_of_no_name (hmarker.trans hb)]
    | true =>
      simp only [ofOne_eq_ok_iff hb, ofOne_eq_ok_iff (hmarker.trans hb), hmarks]
  have hsplit (c : Attribute) : before ++ c :: after = before ++ ([c] ++ after) := rfl
  rw [ofAttributes_eq_inTurn, ofAttributes_eq_inTurn, hsplit a, hsplit b]
  simp only [Source.inTurn_append_eq_ok_iff, hone]

/-- Only the order of paths among paths and of values among values matters. -/
theorem hasEntries_congr {args' : List Argument} (h : ArgumentList (.for ts) ts args)
    (h' : ArgumentList (.for us) us args')
    (hpaths : args.filterMap Argument.pathEntry? = args'.filterMap Argument.pathEntry?)
    (hvalues : args.filterMap Argument.valueEntry? = args'.filterMap Argument.valueEntry?)
    (path value : List String) :
    HasEntries (.tokens ts) path value ↔ HasEntries (.tokens us) path value := by
  constructor
  · intro hx
    cases hx with
    | arguments hargs hsay =>
      obtain rfl := h.unique hargs
      exact .arguments h' ⟨hpaths ▸ hsay.paths, hvalues ▸ hsay.values⟩
  · intro hx
    cases hx with
    | arguments hargs hsay =>
      obtain rfl := h'.unique hargs
      exact .arguments h ⟨hpaths ▸ hsay.paths, hvalues ▸ hsay.values⟩

/-! ## Forms of one text -/

/-- What can stand inside the brackets of an attribute that is a marker with one text. -/
def textForms (name : Word) (joint : Bool) (text : TokenTree) : List (List TokenTree) :=
  let value (t : TokenTree) : List TokenTree := [.word (.of "value"), .punct '=' joint, t]
  [[.word name, .punct '=' joint, text],
   [.word name, .group .paren [text]],
   [.word name, .group .paren [.group .bracket [text]]],
   [.word name, .group .paren (value text)],
   [.word name, .group .paren (value (.group .bracket [text]))]]

variable {name : Word} {text s : String} {hash joint : Bool}

theorem name_not_mem_keywords (kind : MarkerKind) : kind.name ∉ Ahead.keywords := by
  cases kind <;> decide

/-- A single value makes up the arguments. -/
theorem hasEntries_of_value {x : Argument} (hlist : ArgumentList (.for ts) ts [x])
    (hpath : x.pathEntry? = none) (hvalue : x.valueEntry? = some e) (he : Lists e [s]) :
    HasEntries (.tokens ts) [] [s] := by
  have hsay : Argument.Say [x] [] [[s]] := by
    constructor
    · rw [List.filterMap_cons_none hpath]
      exact .nil
    · rw [List.filterMap_cons_some hvalue]
      exact .cons he .nil
  exact .arguments hlist hsay

/-- The grammar for any tokens reads what two levels of it read. -/
theorem readsExpr_of_gives (he : ∀ n, Parse.Gives true (exprOf (.ofDepth (n + 1)) true) us [] e)
    (before : List TokenTree) : ReadsExpr (.for ts) before us [] e := by
  obtain ⟨n, hfor⟩ : ∃ n, Grammar.for ts = .ofDepth (n + 1 + 1) := ⟨_, rfl⟩
  rw [hfor]
  exact he n before

theorem hasEntries_positional {us : List TokenTree} (hne : us ≠ []) (hname : nameAhead us = false)
    (hs : Lists e [s]) (he : ∀ n, Parse.Gives true (exprOf (.ofDepth (n + 1)) true) us [] e) :
    HasEntries (.tokens us) [] [s] := by
  have hus : nameAhead (us ++ []) = false := by rwa [List.append_nil]
  exact hasEntries_of_value (.last hne (.positional hus (readsExpr_of_gives he _))) rfl rfl hs

theorem hasEntries_named (hs : Lists e [s])
    (he : ∀ n, Parse.Gives true (exprOf (.ofDepth (n + 1)) true) us [] e) :
    HasEntries (.tokens (.word (.of "value") :: .punct '=' joint :: us)) [] [s] :=
  hasEntries_of_value
    (.last (List.cons_ne_nil _ _) (.named (by decide) (readsExpr_of_gives he _))) rfl rfl hs

/-- Each form of a text literal gives a marker, and the same one. -/
theorem exists_ofAttributes_of_mem_textForms (hname : name.text = kind.name)
    (htext : literal.literalText? text.toList = some s) {body : List TokenTree}
    (hbody : body ∈ textForms name joint (.literal text)) :
    ∃ a, parse? outerAttributes [.punct '#' hash, .group .bracket body] = some [a] ∧
      ofAttributes [a] = .ok [{ kind, value := [s] }] := by
  have hword : name.text ∉ Ahead.keywords := hname ▸ name_not_mem_keywords kind
  have hparse (us : List TokenTree) {x : AttributeArgs} (hus : Ahead.isPunct "::" us = false)
      (hargs : ∀ g, Parse.Gives true (attributeArgs g) us [] x) (hx : HasEntries x [] [s]) :
      ∃ a, parse? outerAttributes [.punct '#' hash, .group .bracket ([.word name] ++ us)] =
        some [a] ∧ ofAttributes [a] = .ok [{ kind, value := [s] }] := by
    have hbody {g : Grammar} := gives_attributeBody hword hus (hargs g)
    refine ⟨⟨name.text, x⟩, (gives_outerAttribute hbody rfl).runAll, ?_⟩
    have hmarker : isMarker ⟨name.text, x⟩ = true := by
      simp [isMarker, hname, MarkerKind.ofName?_name]
    rw [ofAttributes_eq_ok_iff, List.filter_cons_of_pos hmarker]
    exact .cons ⟨hname, hx⟩ .nil
  have htokens {us : List TokenTree} (hus : HasEntries (.tokens us) [] [s]) :=
    hparse [.group .paren us] rfl (fun g => gives_attributeTokens .paren us) hus
  have hone : ∀ n, Parse.Gives true (exprOf (.ofDepth (n + 1)) true) [.literal text] [] (.text s) :=
    fun n => gives_exprText htext
  have harray : ∀ n, Parse.Gives true (exprOf (.ofDepth (n + 1)) true)
      [.group .bracket [.literal text]] [] (.array [.text s]) :=
    fun n => gives_exprArray (gives_exprText htext) (List.cons_ne_nil _ _)
  simp only [textForms, List.mem_cons, List.not_mem_nil, or_false] at hbody
  rcases hbody with rfl | rfl | rfl | rfl | rfl
  · exact hparse _ rfl (fun g => gives_attributeText htext joint) (.value (.text s))
  · exact htokens (hasEntries_positional (List.cons_ne_nil _ _) rfl (.text s) hone)
  · exact htokens (hasEntries_positional (List.cons_ne_nil _ _) rfl (.array [s]) harray)
  · exact htokens (hasEntries_named (.text s) hone)
  · exact htokens (hasEntries_named (.array [s]) harray)

/-- The markers of attributes, and when there are none because one is faulty; with what does not
matter about the arguments of an attribute, and about how it gives one text. -/
theorem markers_of_attributes :
    (∀ as ms, ofAttributes as = .ok ms ↔ List.Forall₂ Marks (as.filter isMarker) ms) ∧
    (∀ as, (∃ err, ofAttributes as = .error err) ↔ ∃ a ∈ as, Faulty a) ∧
    (∀ ts us args args', ArgumentList (.for ts) ts args → ArgumentList (.for us) us args' →
      args.filterMap Argument.pathEntry? = args'.filterMap Argument.pathEntry? →
      args.filterMap Argument.valueEntry? = args'.filterMap Argument.valueEntry? →
      ∀ name before after ms, ofAttributes (before ++ ⟨name, .tokens ts⟩ :: after) = .ok ms ↔
        ofAttributes (before ++ ⟨name, .tokens us⟩ :: after) = .ok ms) ∧
    ∀ (kind : MarkerKind) (name : Word) (text s : String) (hash joint : Bool),
      name.text = kind.name → literal.literalText? text.toList = some s →
      ∀ body ∈ textForms name joint (.literal text), ∃ a,
        parse? outerAttributes [.punct '#' hash, .group .bracket body] = some [a] ∧
        ofAttributes [a] = .ok [{ kind, value := [s] }] := by
  refine ⟨fun _ _ => ofAttributes_eq_ok_iff, fun _ => exists_ofAttributes_eq_error_iff, ?_, ?_⟩
  · intro ts us args args' h h' hpaths hvalues name before after ms
    apply ofAttributes_congr
    · rfl
    · exact hasEntries_congr h h' hpaths hvalues
  · intro kind name text s hash joint hname htext body hbody
    exact exists_ofAttributes_of_mem_textForms hname htext hbody

-- Paths and values in turn, and an argument with another name.
example :
    let text := "#[get_mapping(\"a\", name = f(1), path = [\"b\", \"c\"], \"d\", path = \"e\")]"
    (attributes? text).map ofAttributes =
      some (.ok [⟨.getMapping, ["b", "c", "e"], ["a", "d"]⟩]) := by
  decide +kernel

end Marker

end EndpointStubs
