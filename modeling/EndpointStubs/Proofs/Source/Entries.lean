import EndpointStubs.Proofs.Outcome
import EndpointStubs.Proofs.Source.Arguments
import EndpointStubs.Proofs.Source.InTurn

/-!
# The entries of a marker

What follows the name of a marker has entries, the paths and the values: texts and arrays of texts.
Those of the arguments are put together in their order, the paths and the values apart from each
other, and what has another name does not count. Otherwise it is faulty: it is no list of
arguments, or one of its entries is neither a text nor an array of texts.

    ofArgs kind x = .ok m ↔ kind = m.kind ∧ HasEntries x m.path m.value
    (∃ e, ofArgs kind x = .error e) ↔ IsFaulty x
-/

namespace EndpointStubs.Marker

open Syntax
open Source (inTurn)

variable {e : ExprShape} {ss : List String} {ts us : List TokenTree} {args : List Argument}
  {kind : MarkerKind} {m m' : Marker}

/-! ## Entries -/

/-- The expression is a text, or an array of texts: these. -/
inductive Lists : ExprShape → List String → Prop
  | text (s : String) : Lists (.text s) [s]
  | array (ss : List String) : Lists (.array (ss.map .text)) ss

theorem itemText_eq_ok_iff {s : String} : itemText e = .ok s ↔ e = .text s := by
  cases e <;> simp [itemText]

theorem mapM_itemText_eq_ok_iff {items : List ExprShape} :
    items.mapM itemText = .ok ss ↔ items = ss.map .text := by
  constructor
  · intro h
    induction items generalizing ss with
    | nil =>
      cases h
      rfl
    | cons e items ih =>
      rw [List.mapM_cons] at h
      cases he : itemText e with
      | error err =>
        rw [he] at h
        cases h
      | ok s =>
        cases hitems : items.mapM itemText with
        | error err =>
          rw [he, hitems] at h
          cases h
        | ok rest =>
          rw [he, hitems] at h
          cases h
          rw [itemText_eq_ok_iff.1 he, ih hitems]
          rfl
  · rintro rfl
    induction ss with
    | nil => rfl
    | cons s ss ih =>
      rw [List.map_cons, List.mapM_cons, ih]
      rfl

theorem entries_eq_ok_iff : entries e = .ok ss ↔ Lists e ss := by
  constructor
  · intro h
    cases e with
    | text s =>
      cases h
      exact .text s
    | array items =>
      obtain rfl := mapM_itemText_eq_ok_iff.1 h
      exact .array ss
    | range => cases h
    | comparison => cases h
    | block => cases h
    | macroCall braces => cases h
    | other => cases h
  · intro h
    cases h with
    | text s => rfl
    | array ss => exact mapM_itemText_eq_ok_iff.2 rfl

/-! ## Arguments -/

/-- The expression of an argument with the name `path`. -/
def Argument.pathEntry? : Argument → Option ExprShape
  | .positional _ => none
  | .named name e => if name = "path" then some e else none

/-- The expression of an argument without a name, or with the name `value`. -/
def Argument.valueEntry? : Argument → Option ExprShape
  | .positional e => some e
  | .named name e => if name = "value" then some e else none

/-- The marker with more entries behind its own. -/
def adding (m : Marker) (path value : List String) : Marker :=
  { m with path := m.path ++ path, value := m.value ++ value }

theorem adding_adding (m : Marker) (path value path' value' : List String) :
    (m.adding path value).adding path' value' = m.adding (path ++ path') (value ++ value') := by
  simp [adding]

/-- An argument adds what stands in it, a path or a value or nothing. -/
theorem add_eq_ok_iff {x : Argument} : add m x = .ok m' ↔ ∃ path value,
    inTurn entries x.pathEntry?.toList = .ok path ∧
    inTurn entries x.valueEntry?.toList = .ok value ∧ m' = m.adding path value := by
  cases x with
  | positional e =>
    simp [add, adding, Argument.pathEntry?, Argument.valueEntry?, Source.map_eq_ok_iff,
      Source.inTurn_singleton]
  | named name e =>
    by_cases hpath : name = "path"
    · simp [add, adding, Argument.pathEntry?, Argument.valueEntry?, hpath, Source.map_eq_ok_iff,
        Source.inTurn_singleton]
    · by_cases hvalue : name = "value"
      · simp [add, adding, Argument.pathEntry?, Argument.valueEntry?, hvalue,
          Source.map_eq_ok_iff, Source.inTurn_singleton]
      · simp only [add, adding, Argument.pathEntry?, Argument.valueEntry?, hpath, hvalue, if_false,
          Option.toList_none, Source.inTurn_nil, Except.ok.injEq, exists_and_left,
          exists_eq_left', List.append_nil]
        exact eq_comm

/-- Whatever stands between them, the paths are put together, and so are the values. -/
theorem foldlM_add_eq_ok_iff : args.foldlM add m = .ok m' ↔ ∃ path value,
    inTurn entries (args.filterMap Argument.pathEntry?) = .ok path ∧
    inTurn entries (args.filterMap Argument.valueEntry?) = .ok value ∧
    m' = m.adding path value := by
  induction args generalizing m with
  | nil => simp [adding, pure, Except.pure, eq_comm]
  | cons x args ih =>
    have hcons (k : Argument → Option ExprShape) :
        (x :: args).filterMap k = (k x).toList ++ args.filterMap k := by
      cases hk : k x <;> simp [hk]
    have hstep : (x :: args).foldlM add m = .ok m' ↔
        ∃ n, add m x = .ok n ∧ args.foldlM add n = .ok m' := by
      rw [List.foldlM_cons]
      exact Outcome.bind_eq_ok_iff
    simp only [hstep, hcons, Source.inTurn_append_eq_ok_iff, add_eq_ok_iff, ih]
    constructor
    · rintro ⟨_, ⟨p, v, hp, hv, rfl⟩, path, value, hpath, hvalue, rfl⟩
      exact ⟨p ++ path, v ++ value, ⟨p, path, hp, hpath, rfl⟩, ⟨v, value, hv, hvalue, rfl⟩,
        adding_adding m p v path value⟩
    · rintro ⟨_, _, ⟨p, path, hp, hpath, rfl⟩, ⟨v, value, hv, hvalue, rfl⟩, rfl⟩
      exact ⟨_, ⟨p, v, hp, hv, rfl⟩, path, value, hpath, hvalue,
        (adding_adding m p v path value).symm⟩

/-- What can be added passes the check. -/
theorem check_of_add {x : Argument} (h : add m x = .ok m') : x.check = .ok () := by
  cases x with
  | positional e =>
    obtain ⟨ss, hss, -⟩ := Source.map_eq_ok_iff.1 h
    exact Source.map_eq_ok_iff.2 ⟨ss, hss, rfl⟩
  | named name e => rfl

theorem check_of_foldlM_add (h : args.foldlM add m = .ok m') :
    args.forM Argument.check = .ok () := by
  induction args generalizing m with
  | nil => rfl
  | cons x args ih =>
    rw [List.foldlM_cons] at h
    cases hx : add m x with
    | error err =>
      rw [hx] at h
      cases h
    | ok n =>
      rw [hx] at h
      change (x.check >>= fun _ => args.forM Argument.check) = .ok ()
      rw [check_of_add hx]
      exact ih h

/-- Tokens give a marker if they are arguments, each of which can be added. -/
theorem ofTokens_eq_ok_iff : ofTokens kind ts = .ok m ↔ ∃ args, ArgumentList (.for ts) ts args ∧
    args.foldlM add { kind } = .ok m := by
  simp only [← arguments_eq_iff]
  unfold ofTokens
  obtain ⟨args, complete⟩ := arguments ts
  constructor
  · intro h
    cases hcheck : args.forM Argument.check with
    | error err =>
      simp only [hcheck] at h
      cases h
    | ok u =>
      simp only [hcheck] at h
      cases complete with
      | false => cases h
      | true => exact ⟨args, rfl, h⟩
  · rintro ⟨_, ⟨⟩, hfold⟩
    simp only [check_of_foldlM_add hfold, hfold]
    rfl

/-- The paths and the values among arguments are these texts. -/
structure Argument.Say (args : List Argument) (paths values : List (List String)) : Prop where
  paths : List.Forall₂ Lists (args.filterMap Argument.pathEntry?) paths
  values : List.Forall₂ Lists (args.filterMap Argument.valueEntry?) values

/-- Arguments add up to all that they say, paths and values apart. -/
theorem foldlM_add_eq_ok_iff_say : args.foldlM add { kind } = .ok m ↔ ∃ paths values,
    Argument.Say args paths values ∧ m = ⟨kind, paths.flatten, values.flatten⟩ := by
  have hin {es : List ExprShape} {ss : List String} : inTurn entries es = .ok ss ↔
      ∃ sss, List.Forall₂ Lists es sss ∧ ss = sss.flatten :=
    Source.inTurn_eq_ok_iff_of fun _ _ _ => entries_eq_ok_iff
  simp only [foldlM_add_eq_ok_iff, hin, adding, List.nil_append]
  constructor
  · rintro ⟨_, _, ⟨paths, hp, rfl⟩, ⟨values, hv, rfl⟩, rfl⟩
    exact ⟨paths, values, ⟨hp, hv⟩, rfl⟩
  · rintro ⟨paths, values, ⟨hp, hv⟩, rfl⟩
    exact ⟨_, _, ⟨paths, hp, rfl⟩, ⟨values, hv, rfl⟩, rfl⟩

/-! ## What follows a name -/

/-- What follows the name of a marker has these paths and values. -/
inductive HasEntries : AttributeArgs → List String → List String → Prop
  | alone : HasEntries .none [] []
  | value {e : ExprShape} {ss : List String} : Lists e ss → HasEntries (.value e) [] ss
  | arguments {ts : List TokenTree} {args : List Argument} {paths values : List (List String)} :
      ArgumentList (.for ts) ts args → Argument.Say args paths values →
      HasEntries (.tokens ts) paths.flatten values.flatten

/-- What follows the name of a marker is no list of arguments, or has an entry that is neither a
text nor an array of texts. -/
inductive IsFaulty : AttributeArgs → Prop
  | value {e : ExprShape} : (∀ ss, ¬Lists e ss) → IsFaulty (.value e)
  | arguments {ts : List TokenTree} : (∀ args, ¬ArgumentList (.for ts) ts args) →
      IsFaulty (.tokens ts)
  | entry {ts : List TokenTree} {args : List Argument} {x : Argument} {e : ExprShape} :
      ArgumentList (.for ts) ts args → x ∈ args →
      (x.pathEntry? = some e ∨ x.valueEntry? = some e) → (∀ ss, ¬Lists e ss) →
      IsFaulty (.tokens ts)

/-- The marker of a kind with what follows its name. -/
def ofArgs (kind : MarkerKind) : AttributeArgs → Except MarkerError Marker
  | .none => .ok { kind }
  | .tokens ts => ofTokens kind ts
  | .value e => (entries e).map fun ss => { kind, value := ss }

variable {x : AttributeArgs}

theorem ofArgs_eq_ok_iff :
    ofArgs kind x = .ok m ↔ kind = m.kind ∧ HasEntries x m.path m.value := by
  obtain ⟨kind', path, value⟩ := m
  constructor
  · intro h
    cases x with
    | none =>
      cases h
      exact ⟨rfl, .alone⟩
    | tokens ts =>
      obtain ⟨args, hargs, hfold⟩ := ofTokens_eq_ok_iff.1 h
      obtain ⟨paths, values, hsay, ⟨⟩⟩ := foldlM_add_eq_ok_iff_say.1 hfold
      exact ⟨rfl, .arguments hargs hsay⟩
    | value e =>
      obtain ⟨ss, hss, ⟨⟩⟩ := Source.map_eq_ok_iff.1 h
      exact ⟨rfl, .value (entries_eq_ok_iff.1 hss)⟩
  · rintro ⟨rfl, h⟩
    cases h with
    | alone => rfl
    | value hss => exact Source.map_eq_ok_iff.2 ⟨_, entries_eq_ok_iff.2 hss, rfl⟩
    | arguments hargs hsay =>
      exact ofTokens_eq_ok_iff.2 ⟨_, hargs, foldlM_add_eq_ok_iff_say.2 ⟨_, _, hsay, rfl⟩⟩

theorem exists_forall₂_lists_iff {es : List ExprShape} :
    (∃ sss, List.Forall₂ Lists es sss) ↔ ∀ e ∈ es, ∃ ss, Lists e ss := by
  induction es with
  | nil => simp
  | cons e es ih =>
    simp only [List.forall₂_cons_left_iff, List.forall_mem_cons, ← ih]
    constructor
    · rintro ⟨_, ss, sss, hss, hsss, rfl⟩
      exact ⟨⟨ss, hss⟩, sss, hsss⟩
    · rintro ⟨⟨ss, hss⟩, sss, hsss⟩
      exact ⟨_, ss, sss, hss, hsss, rfl⟩

/-- Arguments say something if each `path` and each value is a text or a list of texts. -/
theorem exists_say_iff : (∃ paths values, Argument.Say args paths values) ↔
    ∀ x ∈ args, ∀ e, x.pathEntry? = some e ∨ x.valueEntry? = some e → ∃ ss, Lists e ss := by
  constructor
  · rintro ⟨paths, values, hpaths, hvalues⟩ x hx e (he | he)
    · exact exists_forall₂_lists_iff.1 ⟨_, hpaths⟩ e (List.mem_filterMap.2 ⟨x, hx, he⟩)
    · exact exists_forall₂_lists_iff.1 ⟨_, hvalues⟩ e (List.mem_filterMap.2 ⟨x, hx, he⟩)
  · intro h
    have hentries {k : Argument → Option ExprShape}
        (hk : ∀ x e, k x = some e → x.pathEntry? = some e ∨ x.valueEntry? = some e) :
        ∃ sss, List.Forall₂ Lists (args.filterMap k) sss := by
      apply exists_forall₂_lists_iff.2
      intro e he
      obtain ⟨x, hx, hxe⟩ := List.mem_filterMap.1 he
      exact h x hx e (hk x e hxe)
    obtain ⟨paths, hpaths⟩ := hentries fun _ _ => .inl
    obtain ⟨values, hvalues⟩ := hentries fun _ _ => .inr
    exact ⟨paths, values, hpaths, hvalues⟩

theorem isFaulty_iff : IsFaulty x ↔ ∀ path value, ¬HasEntries x path value := by
  constructor
  · intro h path value hx
    cases h with
    | value hnone =>
      cases hx with
      | value hss => exact hnone _ hss
    | arguments hnone =>
      cases hx with
      | arguments hargs _ => exact hnone _ hargs
    | entry hlist hmem hentry hnone =>
      cases hx with
      | arguments hargs hsay =>
        obtain rfl := hlist.unique hargs
        obtain ⟨ss, hss⟩ := exists_say_iff.1 ⟨_, _, hsay⟩ _ hmem _ hentry
        exact hnone ss hss
  · intro h
    cases x with
    | none => exact absurd .alone (h [] [])
    | value e => exact .value fun ss hss => h [] ss (.value hss)
    | tokens ts =>
      by_contra hsound
      have hlist : ∃ args, ArgumentList (.for ts) ts args := by
        by_contra hnone
        exact hsound (.arguments fun args hargs => hnone ⟨args, hargs⟩)
      obtain ⟨args, hargs⟩ := hlist
      have hentries : ∀ y ∈ args, ∀ e, y.pathEntry? = some e ∨ y.valueEntry? = some e →
          ∃ ss, Lists e ss := by
        intro y hy e he
        by_contra hnone
        exact hsound (.entry hargs hy he fun ss hss => hnone ⟨ss, hss⟩)
      obtain ⟨paths, values, hsay⟩ := exists_say_iff.2 hentries
      exact h _ _ (.arguments hargs hsay)

theorem exists_ofArgs_eq_error_iff : (∃ err, ofArgs kind x = .error err) ↔ IsFaulty x := by
  rw [isFaulty_iff]
  constructor
  · rintro ⟨err, herr⟩ path value hx
    have hok : ofArgs kind x = .ok ⟨kind, path, value⟩ := ofArgs_eq_ok_iff.2 ⟨rfl, hx⟩
    rw [herr] at hok
    cases hok
  · intro h
    cases hx : ofArgs kind x with
    | error err => exact ⟨err, rfl⟩
    | ok m => exact absurd (ofArgs_eq_ok_iff.1 hx).2 (h m.path m.value)

end EndpointStubs.Marker
