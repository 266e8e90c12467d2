import EndpointStubs.Proofs.Syntax.Taken
import EndpointStubs.Syntax.SourceText

/-!
# The tokens of types

What the parsers of types, paths and bounds take: simple tokens out of plain ones, and tokens that
start as a type does.
-/

namespace EndpointStubs.Syntax

open Parse TokenTree

variable {plain : Prop} {ts us front : List TokenTree} {cs : List Char} {c : Char} {s : String}

/-! ## How types start -/

/-- The punctuation characters that types and bounds start with. -/
def openers : List Char := "<:*&!'?".toList

/-- A token that types and bounds start with, but for parentheses. -/
def TokenTree.opens : TokenTree → Bool
  | .word _ => true
  | .punct c _ => openers.contains c
  | .literal _ => false
  | .group d _ => d = .bracket

/-- What can stand first inside the parentheses of a type is in front. -/
def Starts (ts : List TokenTree) : Prop :=
  ∃ t us, ts = t :: us ∧ (t.opens = true ∨ ∃ inner, t = .group .paren inner)

/-- A type or a bound is in front, but for the type `()`. -/
def Begins (ts : List TokenTree) : Prop :=
  ∃ t us, ts = t :: us ∧ (t.opens = true ∨ ∃ inner, t = .group .paren inner ∧ Starts inner)

/-- The tokens of a type of this shape. -/
def AreTypeTokens (t : TypeShape) (ts : List TokenTree) : Prop :=
  t = .other ∧ ts = [.group .paren []] ∨ Begins ts

theorem Begins.starts (h : Begins ts) : Starts ts := by
  obtain ⟨t, us, rfl, ht | ⟨inner, rfl, -⟩⟩ := h
  · exact ⟨t, us, rfl, .inl ht⟩
  · exact ⟨_, us, rfl, .inr ⟨inner, rfl⟩⟩

theorem Starts.append (h : Starts ts) (us : List TokenTree) : Starts (ts ++ us) := by
  obtain ⟨t, vs, rfl, ht⟩ := h
  exact ⟨t, vs ++ us, rfl, ht⟩

theorem Begins.append (h : Begins ts) (us : List TokenTree) : Begins (ts ++ us) := by
  obtain ⟨t, vs, rfl, ht⟩ := h
  exact ⟨t, vs ++ us, rfl, ht⟩

theorem begins_cons {t : TokenTree} (h : t.opens = true) : Begins (t :: ts) := ⟨t, ts, rfl, .inl h⟩

theorem begins_paren (h : Starts ts) : Begins (.group .paren ts :: us) :=
  ⟨_, us, rfl, .inr ⟨ts, rfl, h⟩⟩

theorem AreTypeTokens.starts {t : TypeShape} (h : AreTypeTokens t ts) : Starts ts := by
  obtain ⟨-, rfl⟩ | h := h
  · exact ⟨_, [], rfl, .inr ⟨[], rfl⟩⟩
  · exact h.starts

theorem ArePuncts.begins (h : ArePuncts cs ts) (hcs : cs.head?.any openers.contains = true) :
    Begins ts := by
  cases h with
  | nil => cases hcs
  | cons ht _ =>
    obtain ⟨joint, rfl⟩ := ht
    rw [List.head?_cons, Option.any_some] at hcs
    exact begins_cons (by rw [TokenTree.opens, hcs])

/-- Characters that no plain token is. -/
theorem ArePuncts.not_isSimple (h : ArePuncts [c] ts) (hc : c ∈ ['#', ';']) :
    ¬IsSimple false ts := by
  intro hsimple
  cases h with
  | cons ht htail =>
    cases htail
    obtain ⟨joint, rfl⟩ := ht
    have hnone : ∀ c ∈ ['#', ';'], ¬(c = '\'' ∨ c ∈ signs ∧ c ≠ ';') :=
      List.all_iff_forall_prop.1 (by decide)
    exact hnone c hc (hsimple.isPlain _ List.mem_cons_self)

namespace Parse

variable {α β : Type} {p : Parse α} {f : α → Parse β}

/-- What is gone over and what is added starts as a type or a bound does. -/
def Opens (plain : Prop) (p : Parse α) : Prop :=
  TakesAs plain p fun _ front added => Begins front ∧ Begins added

/-- Nothing is taken, or it starts as a type or a bound does. -/
def MayOpen (plain : Prop) (p : Parse α) : Prop :=
  TakesAs plain p fun _ front added => front = [] ∧ added = [] ∨ Begins front ∧ Begins added

theorem Opens.bind (hp : Opens plain p) (hf : ∀ a, Takes plain (f a)) :
    Opens plain (p >>= f) := by
  refine TakesAs.bind hp fun a front added _ h => (hf a).mono fun _ front' added' _ _ => ?_
  exact ⟨h.1.append front', h.2.append added'⟩

theorem MayOpen.bind (hp : MayOpen plain p) (hf : ∀ a, Opens plain (f a)) :
    Opens plain (p >>= f) := by
  refine TakesAs.bind hp fun a front added _ h => (hf a).mono fun _ front' added' _ h' => ?_
  obtain ⟨rfl, rfl⟩ | h := h
  · exact h'
  · exact ⟨h.1.append front', h.2.append added'⟩

/-- A step that is left out or not, and what comes after it. -/
theorem Opens.optional {b : Prop} [Decidable b] {p : Parse Unit} {f : Unit → Parse β}
    (hp : MayOpen plain p) (hf : ∀ a, Opens plain (f a)) :
    Opens plain (if b then p >>= f else f ()) := by
  split
  · exact hp.bind hf
  · exact hf ()

theorem Takes.optional {b : Prop} [Decidable b] {p : Parse Unit} {f : Unit → Parse β}
    (hp : Takes plain p) (hf : ∀ a, Takes plain (f a)) :
    Takes plain (if b then p >>= f else f ()) := by
  split
  · exact hp.bind hf
  · exact hf ()

/-- One of two steps, and what comes after it. -/
theorem Opens.either {b : Prop} [Decidable b] {p q : Parse α} (hp : MayOpen plain p)
    (hq : MayOpen plain q) (hf : ∀ a, Opens plain (f a)) :
    Opens plain (if b then p >>= f else q >>= f) := by
  split
  · exact hp.bind hf
  · exact hq.bind hf

theorem Opens.mayOpen (h : Opens plain p) : MayOpen plain p := h.mono fun _ _ _ _ h => .inr h

theorem mayOpen_ahead (question : List TokenTree → Bool) : MayOpen plain (ahead question) :=
  (takesAs_ahead question).mono fun _ _ _ _ h => .inl h

theorem mayOpen_require (b : Bool) : MayOpen plain (require b) :=
  (takesAs_require b).mono fun _ _ _ _ h => .inl h

theorem mayOpen_pure (a : α) : MayOpen plain (pure a) := takesAs_pure (.inl ⟨rfl, rfl⟩)

section
variable {P : List TokenTree → Prop} (hP : ∀ ts, P ts → Begins ts)
include hP

theorem opens_of_taken (h : TakesAs plain p fun _ front added => added = front ∧ P front) :
    Opens plain p := by
  refine h.mono fun _ front added _ h => ?_
  obtain ⟨rfl, h⟩ := h
  exact ⟨hP _ h, hP _ h⟩

theorem mayOpen_of_taken {p : Parse Bool} (h : TakesAs plain p fun b front added =>
      added = front ∧ if b then P front else front = []) : MayOpen plain p := by
  refine h.mono fun b front added _ h => ?_
  obtain ⟨rfl, h⟩ := h
  split at h
  · exact .inr ⟨hP _ h, hP _ h⟩
  · exact .inl ⟨h, h⟩

end

theorem opens_punct (hs : '\'' ∉ s.toList) (hopen : s.toList.head?.any openers.contains = true) :
    Opens plain (punct s) :=
  opens_of_taken (fun _ h => h.begins hopen) (takesAs_punct hs)

theorem mayOpen_punct? (hs : '\'' ∉ s.toList)
    (hopen : s.toList.head?.any openers.contains = true) : MayOpen plain (punct? s) :=
  mayOpen_of_taken (fun _ h => h.begins hopen) (takesAs_punct? hs)

theorem opens_ifPunct {p q : Parse α} (hs : '\'' ∉ s.toList)
    (hopen : s.toList.head?.any openers.contains = true) (hp : Takes plain p)
    (hq : Opens plain q) : Opens plain (punct? s >>= fun b => if b = true then p else q) := by
  refine (takesAs_punct? hs).bind fun b front added _ h => ?_
  obtain ⟨rfl, h⟩ := h
  cases b with
  | true =>
    have hbegins : Begins added := ArePuncts.begins h hopen
    exact hp.mono fun _ front' added' _ _ => ⟨hbegins.append front', hbegins.append added'⟩
  | false =>
    obtain rfl : added = [] := h
    exact hq

theorem opens_word (w : String) : Opens plain (word w) := by
  refine opens_of_taken ?_ (takesAs_word w)
  rintro _ ⟨t, rfl⟩
  exact begins_cons rfl

theorem mayOpen_word? (w : String) : MayOpen plain (word? w) := by
  refine mayOpen_of_taken ?_ (takesAs_word? w)
  rintro _ ⟨t, rfl⟩
  exact begins_cons rfl

theorem opens_anyWord : Opens plain anyWord := by
  refine takesAs_anyWord.mono fun _ front added _ h => ?_
  obtain ⟨rfl, rfl⟩ := h
  exact ⟨begins_cons rfl, begins_cons rfl⟩

theorem opens_ident : Opens plain ident :=
  (takesAs_ahead _).after fun _ => (takesAs_require _).after fun _ => opens_anyWord

theorem opens_lifetime : Opens plain lifetime := by
  refine opens_of_taken ?_ takesAs_lifetime
  rintro _ ⟨w, rfl⟩
  exact begins_cons rfl

theorem Opens.paren (h : Opens plain p) : Opens plain (group .paren p) := by
  refine (TakesAs.group h).mono fun _ front added _ h => ?_
  obtain ⟨inner, rest, added', rfl, rfl, hinner, hadded⟩ := h
  exact ⟨begins_paren (hinner.starts.append rest), begins_paren hadded.starts⟩

theorem opens_bracket (h : plain → Takes plain p) :
    Opens plain (group .bracket p) := by
  refine (takesAs_group fun hplain _ => h hplain).mono fun _ front added _ h => ?_
  obtain ⟨inner, added', rfl, rfl⟩ := h
  exact ⟨begins_cons rfl, begins_cons rfl⟩

theorem Opens.asWrittenIf {p : Parse (α × Bool)} (h : Opens plain p) :
    Opens plain (asWrittenIf p) := by
  refine (TakesAs.asWrittenIf h).mono fun a front added _ h => ?_
  obtain ⟨kept, added', ⟨hfront, hadded⟩, rfl | rfl⟩ := h
  · exact ⟨hfront, hadded⟩
  · exact ⟨hfront, hfront⟩

end Parse

/-! ## Literals and attributes -/

theorem exists_of_isLiteral (h : Ahead.isLiteral ts = true) :
    (∃ text us, ts = .literal text :: us) ∨ (∃ w us, ts = .word w :: us) ∨
      ∃ joint text us, ts = .punct '-' joint :: .literal text :: us := by
  unfold Ahead.isLiteral at h
  split at h
  · exact .inl ⟨_, _, rfl⟩
  · exact .inr (.inl ⟨_, _, rfl⟩)
  · unfold Ahead.isNumber at h
    split at h
    · exact .inr (.inr ⟨_, _, _, rfl⟩)
    · cases h
  · cases h

/-- No literal is plain. -/
theorem isSimple_of_literal (text : String) (hmem : .literal text ∈ ts)
    (h : ∀ t ∈ ts, t.IsPlain) : IsSimple false ts :=
  have hfalse : False := h (.literal text) hmem
  hfalse.elim

theorem takes_literal : Takes plain literal := by
  refine takesAs_of_take fun c e c' hrun => ?_
  rw [literal, run_rest_bind] at hrun
  split at hrun
  · rename_i text us hrest
    obtain ⟨-, rfl⟩ := Prod.mk.inj (Option.some.inj hrun)
    rw [hrest]
    exact ⟨[.literal text], rfl, rfl,
      fun h _ => isSimple_of_literal text List.mem_cons_self h, trivial⟩
  · rename_i hnot
    cases hliteral : Ahead.isLiteral c.rest with
    | false =>
      rw [hliteral] at hrun
      cases hrun
    | true =>
      rw [hliteral] at hrun
      obtain ⟨-, rfl⟩ := Prod.mk.inj (Option.some.inj hrun)
      refine ⟨c.rest.take (if Ahead.isAnyWord c.rest then 1 else 2),
        (List.take_append_drop _ _).symm, rfl, fun h _ => ?_, trivial⟩
      obtain ⟨text, us, hrest⟩ | ⟨w, us, hrest⟩ | ⟨joint, text, us, hrest⟩ :=
        exists_of_isLiteral hliteral
      · exact absurd hrest (hnot text us)
      · rw [hrest] at h ⊢
        exact isSimple_word h
      · rw [hrest] at h ⊢
        exact isSimple_of_literal text (by simp [Ahead.isAnyWord]) h

variable {g : Grammar}

/-- An attribute has a mark that is not plain. -/
theorem takes_outerAttribute : Takes plain (outerAttribute g) := by
  refine (takesAs_punct (by decide)).bind fun _ front _ hsimple h =>
    (takesAs_group fun hplain _ => ?_).takes
  exact absurd (hsimple hplain).1 (h.2.not_isSimple (by decide))

theorem takes_attributesWhile {more : List TokenTree → Bool} {one : Parse Attribute}
    (h : Takes plain one) (n : Nat) : Takes plain (attributesWhile more one n) := by
  induction n with
  | zero => exact takesAs_failure
  | succ n ih =>
    rw [attributesWhile]
    refine (takesAs_ahead _).after fun b => ?_
    split
    · exact h.bind fun _ => ih.bind fun _ => takes_pure _
    · exact takes_pure _

theorem takes_outerAttributes : Takes plain (outerAttributes g) :=
  (takesAs_look _).after fun _ => takes_attributesWhile takes_outerAttribute _

/-! ## Generic arguments -/

/-- The grammar takes types as types are. -/
def TakesTypes (plain : Prop) (g : Grammar) : Prop :=
  ∀ plus, TakesAs plain (g.type plus) fun t _ added => AreTypeTokens t added

section
variable (hg : TakesTypes plain g) {bound : Parse Unit}
include hg

theorem TakesTypes.takes (plus : Bool) : Takes plain (g.type plus) := TakesAs.takes (hg plus)

omit hg in
theorem takes_constArgument : Takes plain (constArgument g) := by
  refine (takesAs_look _).after fun ts => ?_
  split
  · exact takes_literal.bind fun _ => takes_pure _
  · split
    · exact opens_ident.takes.bind fun _ => takes_pure _
    · exact (takesAs_group fun _ hne => absurd rfl hne).takes

omit hg in
theorem takes_boundList (hbound : Takes plain bound) (stop : List TokenTree → Bool) :
    Takes plain (boundList bound stop) :=
  (takes_chain (by decide) hbound).bind fun _ => takes_pure _

theorem takes_genericArgument (hbound : Takes plain bound) :
    Takes plain (genericArgument g bound) := by
  refine (takesAs_look _).after fun ts => ?_
  split
  · exact opens_lifetime.takes.bind fun _ => takes_pure _
  · split
    · exact takes_constArgument.bind fun _ => takes_pure _
    · refine (hg.takes true).bind fun t => ?_
      split
      · split
        · refine (takesAs_punct? (by decide)).takes.bind fun b => ?_
          split
          · refine (takesAs_look _).after fun ts => ?_
            split
            · exact takes_constArgument.bind fun _ => takes_pure _
            · exact (hg.takes true).bind fun _ => takes_pure _
          · refine (takesAs_punct? (by decide)).takes.bind fun b => ?_
            split
            · exact (takes_boundList hbound _).bind fun _ => takes_pure _
            · exact takes_pure _
        · exact takes_pure _
      · exact takes_pure _

theorem takes_angleArguments (hbound : Takes plain bound) :
    Takes plain (angleArguments g bound) := takes_angleList (takes_genericArgument hg hbound)

/-! ## Paths -/

theorem opens_pathSegment (hbound : Takes plain bound) (inExpr : Bool) :
    Opens plain (pathSegment g bound inExpr) := by
  refine (takesAs_ahead _).after fun b => ?_
  split
  · exact opens_anyWord.bind fun _ => takes_pure _
  · refine (takesAs_ahead _).after fun b => ?_
    have hrest (w : Word) : Takes plain (do
        let ts ← rest
        if (!inExpr && Ahead.isPunct "<" ts && !Ahead.isPunct "<=" ts && !Ahead.isPunct "<<=" ts)
            || (Ahead.isPunct "::" ts && Ahead.isPunct "<" (ts.drop 2)) then
          let _ ← punct? "::"
          angleArguments g bound
          return (w, SegmentArgs.angle)
        return (w, SegmentArgs.none)) := by
      refine (takesAs_look _).after fun ts => ?_
      split
      · exact (takesAs_punct? (by decide)).takes.bind fun _ =>
          (takes_angleArguments hg hbound).bind fun _ => takes_pure _
      · exact takes_pure _
    split
    · exact opens_anyWord.bind hrest
    · exact opens_ident.bind hrest

theorem takes_pathRest (hbound : Takes plain bound) (inExpr : Bool) (n : Nat) :
    Takes plain (pathRest g bound inExpr n) := by
  induction n with
  | zero => exact takesAs_failure
  | succ n ih =>
    rw [pathRest]
    refine (takesAs_look _).after fun ts => ?_
    split
    · exact (takesAs_punct (by decide)).takes.bind fun _ =>
        (opens_pathSegment hg hbound inExpr).takes.bind fun _ => ih.bind fun _ => takes_pure _
    · exact takes_pure _

theorem opens_path (hbound : Takes plain bound) (inExpr : Bool) :
    Opens plain (path g bound inExpr) := by
  refine (mayOpen_punct? (by decide) (by decide)).bind fun _ =>
    (opens_pathSegment hg hbound inExpr).bind fun _ => ?_
  exact (takesAs_look _).after fun _ =>
    (takes_pathRest hg hbound inExpr _).bind fun _ => takes_pure _

theorem takes_qualifiedRest (hbound : Takes plain bound) (inExpr : Bool) (n : Nat) :
    Takes plain (qualifiedRest g bound inExpr n) := by
  induction n with
  | zero => exact takesAs_failure
  | succ n ih =>
    rw [qualifiedRest]
    refine (opens_pathSegment hg hbound inExpr).takes.bind fun _ =>
      (takesAs_punct? (by decide)).takes.bind fun b => ?_
    split
    · exact ih.bind fun _ => takes_pure _
    · exact takes_pure _

theorem opens_qualifiedPath (hbound : Takes plain bound) (inExpr : Bool) :
    Opens plain (qualifiedPath g bound inExpr) := by
  refine opens_ifPunct (by decide) (by decide) ((hg.takes true).bind fun _ =>
    (mayOpen_word? _).takes.bind fun b => ?_) (opens_path hg hbound inExpr)
  have hrest : Takes plain (do
      punct ">"
      punct "::"
      let segments ← qualifiedRest g bound inExpr ((← rest).length + 1)
      return (⟨true, false, segments⟩ : PathShape)) :=
    (takesAs_punct (by decide)).takes.bind fun _ => (takesAs_punct (by decide)).takes.bind fun _ =>
      (takesAs_look _).after fun _ =>
        (takes_qualifiedRest hg hbound inExpr _).bind fun _ => takes_pure _
  split
  · exact (opens_path hg hbound false).takes.bind fun _ => hrest
  · exact hrest

/-! ## Generic parameters -/

omit hg in
theorem takes_lifetimeBounds (stop : List TokenTree → Bool) : Takes plain (lifetimeBounds stop) :=
  (takes_chain (by decide) opens_lifetime.takes).bind fun _ => takes_pure _

theorem takes_genericParam (hbound : Takes plain bound) (blankAllowed : Bool) :
    Takes plain (genericParam g bound blankAllowed) := by
  refine takes_outerAttributes.bind fun _ => (takesAs_look _).after fun ts => ?_
  split
  · exact opens_lifetime.takes.bind fun _ =>
      (takes_afterColon (takes_lifetimeBounds _)).bind fun _ => takes_pure _
  · split
    · refine opens_ident.takes.bind fun _ =>
        (takes_afterColon (takes_boundList hbound _)).bind fun _ =>
          (takesAs_punct? (by decide)).takes.bind fun b => ?_
      split
      · exact (hg.takes true).bind fun _ => takes_pure _
      · exact takes_pure _
    · split
      · refine (opens_word _).takes.bind fun _ => opens_ident.takes.bind fun _ =>
          (takesAs_punct (by decide)).takes.bind fun _ => (hg.takes true).bind fun _ =>
            (takesAs_punct? (by decide)).takes.bind fun b => ?_
        split
        · exact takes_constArgument.bind fun _ => takes_pure _
        · exact takes_pure _
      · exact (takesAs_require _).after fun _ => (opens_word _).takes.bind fun _ => takes_pure _

theorem opens_introducedParams (hbound : Takes plain bound) :
    Opens plain (introducedParams g bound) :=
  (opens_word _).bind fun _ => (takesAs_punct (by decide)).takes.bind fun _ =>
    (takes_list (by decide) (takes_genericParam hg hbound false)).bind fun _ =>
      (takesAs_punct (by decide)).takes

/-! ## Bounds -/

theorem takes_parenthesizedArguments : Takes plain (parenthesizedArguments g) := by
  refine (takesAs_group fun _ _ => ?_).takes.bind fun _ =>
    (takesAs_punct? (by decide)).takes.bind fun b => ?_
  · exact (takes_commaList (hg.takes true)).bind fun _ => takes_pure _
  · split
    · exact (hg.takes false).bind fun _ => takes_pure _
    · exact takes_pure _

theorem opens_traitBound (hbound : Takes plain bound) (constAllowed : Bool) :
    Opens plain (traitBound g bound constAllowed) := by
  refine (takesAs_ahead _).after fun introduced =>
    Opens.optional (opens_introducedParams hg hbound).mayOpen fun _ =>
      (takesAs_look _).after fun ts => ?_
  extract_lets conditional constant afterRequire afterConst
  have hrequire : ∀ a, Opens plain (afterRequire a) := by
    refine fun _ => MayOpen.bind (mayOpen_punct? (by decide) (by decide)) fun maybe =>
      Opens.either (mayOpen_ahead _) (mayOpen_pure _) fun later =>
        Opens.optional (opens_introducedParams hg hbound).mayOpen fun _ =>
          (opens_path hg hbound false).bind fun p => (takesAs_look _).after fun ts => ?_
    extract_lets bare result
    have hresult : ∀ a, Takes plain (result a) :=
      fun _ => (takesAs_require _).after fun _ => takes_pure _
    split
    · refine TakesAs.bind (takesAs_punct? (by decide)).capture fun _ _ _ _ _ =>
        (takes_parenthesizedArguments hg).bind hresult
    · exact hresult ()
  have hconst : ∀ a, Opens plain (afterConst a) :=
    fun _ => Opens.optional (mayOpen_require _) hrequire
  split
  · exact (opens_bracket fun _ => (opens_word _).takes).mayOpen.bind hconst
  · exact Opens.optional (opens_word _).mayOpen hconst

omit hg in
theorem opens_captured : Opens plain captured := by
  refine (opens_word _).bind fun _ => takes_angleList ((takesAs_look _).after fun ts => ?_)
  split
  · exact opens_lifetime.takes.bind fun _ => takes_pure _
  · exact (takesAs_require _).after fun _ => opens_anyWord.takes.bind fun _ => takes_pure _

theorem opens_singleBound (hbound : Takes plain bound) (captureAllowed constAllowed : Bool) :
    Opens plain (singleBound g bound captureAllowed constAllowed) := by
  refine (takesAs_look _).after fun ts => ?_
  split
  · exact opens_lifetime.bind fun _ => takes_pure _
  · split
    · exact opens_captured.bind fun _ => (takesAs_require _).after fun _ => takes_pure _
    · refine Opens.asWrittenIf ?_
      split
      · exact (opens_traitBound hg hbound constAllowed).paren.bind fun _ => takes_pure _
      · exact (opens_traitBound hg hbound constAllowed).bind fun _ => takes_pure _

theorem takes_paramBound (n : Nat) : Takes plain (paramBound g n) := by
  induction n with
  | zero => exact takesAs_failure
  | succ n ih => exact (opens_singleBound hg ih false true).takes.bind fun _ => takes_pure _

theorem takes_anyBound : Takes plain (anyBound g) :=
  (takesAs_look _).after fun _ => takes_paramBound hg _

theorem takes_plainBound : Takes plain (plainBound g) :=
  (opens_singleBound hg (takes_anyBound hg) false false).takes.bind fun _ => takes_pure _

theorem opens_bounds (plus captureAllowed constAllowed : Bool) (n : Nat) :
    Opens plain (bounds g plus captureAllowed constAllowed n) := by
  induction n with
  | zero => exact takesAs_failure
  | succ n ih =>
    rw [bounds]
    refine (opens_singleBound hg (takes_anyBound hg) captureAllowed constAllowed).bind fun kind =>
      (takesAs_ahead _).after fun b => ?_
    split
    · refine (takesAs_punct (by decide)).takes.bind fun _ => (takesAs_ahead _).after fun b => ?_
      split
      · exact ih.takes.bind fun _ => takes_pure _
      · exact takes_pure _
    · exact takes_pure _

theorem opens_traitBounds (plus captureAllowed constAllowed : Bool) :
    Opens plain (traitBounds g plus captureAllowed constAllowed) :=
  (takesAs_look _).after fun _ =>
    (opens_bounds hg plus captureAllowed constAllowed _).bind fun _ =>
      (takesAs_require _).after fun _ => takes_pure _

theorem takes_moreBounds (n : Nat) : Takes plain (moreBounds g n) := by
  induction n with
  | zero => exact takesAs_failure
  | succ n ih =>
    rw [moreBounds]
    refine (takesAs_punct? (by decide)).takes.bind fun b => ?_
    split
    · exact (takes_plainBound hg).bind fun _ => ih.bind fun _ => takes_pure _
    · exact takes_pure _

theorem takes_moreBoundsLoosely (n : Nat) : Takes plain (moreBoundsLoosely g n) := by
  induction n with
  | zero => exact takesAs_failure
  | succ n ih =>
    rw [moreBoundsLoosely]
    refine (takesAs_punct? (by decide)).takes.bind fun b => ?_
    split
    · refine (takesAs_ahead _).after fun b => ?_
      split
      · exact (takes_plainBound hg).bind fun _ => ih.bind fun _ => takes_pure _
      · exact takes_pure _
    · exact takes_pure _

/-! ## Function types -/

omit hg in
theorem mayOpen_abi? : MayOpen plain abi? := by
  refine (takesAs_ahead _).after fun b => ?_
  split
  · refine ((opens_word _).bind fun _ => (takesAs_ahead _).after fun b => ?_).mayOpen
    split
    · exact takes_literal.bind fun _ => takes_pure _
    · exact takes_pure _
  · exact mayOpen_pure _

theorem takes_functionTypeParam (first : Bool) : Takes plain (functionTypeParam g first) := by
  refine Takes.asWrittenIf ((takesAs_look _).after fun ts =>
    Takes.optional (opens_word _).takes fun _ => (takesAs_look _).after fun ts => ?_)
  extract_lets named done afterName
  have hname : ∀ a, Takes plain (afterName a) := by
    refine fun _ => TakesAs.after (takesAs_ahead _) fun b => ?_
    split
    · exact (opens_word _).takes.bind fun _ => (opens_word _).takes.bind fun _ => takes_pure _
    · split
      · exact (opens_word _).takes.bind fun _ => takes_pure _
      · exact (hg.takes true).bind fun _ => takes_pure _
  split
  · exact opens_anyWord.takes.bind fun _ => (takesAs_punct (by decide)).takes.bind hname
  · exact hname ()

omit hg in
theorem takes_variadic : Takes plain variadic := by
  refine (takesAs_ahead _).after fun b => ?_
  extract_lets dots
  have hdots : ∀ a, Takes plain (dots a) := fun _ =>
    (takesAs_punct (by decide)).takes.bind fun _ =>
      (takesAs_punct? (by decide)).takes.bind fun _ => takes_pure _
  split
  · exact opens_anyWord.takes.bind fun _ => (takesAs_punct (by decide)).takes.bind hdots
  · exact hdots ()

theorem takes_functionTypeParams (n : Nat) (first : Bool) :
    Takes plain (functionTypeParams g n first) := by
  induction n generalizing first with
  | zero => exact takesAs_failure
  | succ n ih =>
    rw [functionTypeParams]
    refine (takesAs_ahead _).after fun b => ?_
    split
    · exact takes_pure _
    · refine takes_outerAttributes.bind fun _ => (takesAs_ahead _).after fun b => ?_
      split
      · exact takes_variadic
      · refine (takes_functionTypeParam hg first).bind fun _ => (takesAs_ahead _).after fun b => ?_
        split
        · exact takes_pure _
        · exact (takesAs_punct (by decide)).takes.bind fun _ => ih false

theorem takes_resultType (plus : Bool) : Takes plain (resultType g plus) := by
  refine (takesAs_punct? (by decide)).takes.bind fun b => ?_
  split
  · exact (hg.takes plus).bind fun _ => takes_pure _
  · exact takes_pure _

theorem opens_functionType : Opens plain (functionType g) := by
  refine (mayOpen_word? _).bind fun _ => mayOpen_abi?.bind fun _ => (opens_word _).bind fun _ =>
    (takesAs_group fun _ _ => ?_).takes.bind fun _ => takes_resultType hg false
  exact (takesAs_look _).after fun _ => takes_functionTypeParams hg _ true

/-! ## Types -/

omit hg in
theorem opens_builtin : Opens plain builtin :=
  (opens_word _).bind fun _ => (takesAs_punct (by decide)).takes.bind fun _ =>
    opens_ident.takes.bind fun _ => (takesAs_ahead _).after fun _ =>
      (takesAs_require _).after fun _ => takes_anyGroup.bind fun _ => takes_pure _

/-- The length of an array has a mark in front that is not plain. -/
theorem opens_bracketType : Opens plain (bracketType g) := by
  refine (opens_bracket fun hplain => (hg.takes true).bind fun _ =>
    (takesAs_punct? (by decide)).bind fun b front _ hsimple h => ?_).bind fun _ => takes_pure _
  cases b with
  | true => exact absurd (hsimple hplain).1 (ArePuncts.not_isSimple h.2 (by decide))
  | false => exact takes_pure _

theorem opens_pointerType : Opens plain (pointerType g) :=
  (opens_punct (by decide) (by decide)).bind fun _ => (takesAs_ahead _).after fun _ =>
    (takesAs_require _).after fun _ => opens_anyWord.takes.bind fun _ =>
      (hg.takes false).bind fun _ => takes_pure _

theorem opens_referenceType : Opens plain (referenceType g) :=
  (opens_punct (by decide) (by decide)).bind fun _ => takesAs_lifetime?.takes.bind fun _ =>
    (takesAs_word? _).takes.bind fun _ => (hg.takes false).bind fun _ => takes_pure _

theorem opens_dynType (plus : Bool) : Opens plain (dynType g plus) :=
  Opens.asWrittenIf ((opens_word _).bind fun _ => (takesAs_punct? (by decide)).takes.bind fun _ =>
    (opens_traitBounds hg plus false false).takes.bind fun _ => takes_pure _)

/-- A path with what stands in front of it is added behind that. -/
theorem takesAs_pathType {introduced : List TokenTree} (plus : Bool)
    (hsimple : plain → IsSimple false introduced) (hstart : introduced = [] ∨ Begins introduced) :
    TakesAs plain (pathType g introduced plus) fun _ _ added => Begins added := by
  refine TakesAs.bind (TakesAs.capture (opens_qualifiedPath hg (takes_anyBound hg) false)) ?_
  rintro ⟨p, written⟩ front _ - ⟨rfl, hwritten, -, hbegins⟩
  refine (takesAs_look _).after fun ts => ?_
  have hemit {us : List TokenTree} {f : Unit → Parse TypeShape}
      (hus : plain → IsSimple false us) (hbegins : Begins us) (hf : ∀ a, Takes plain (f a)) :
      TakesAs plain (emit us >>= f) fun _ _ added => Begins added := by
    refine (takesAs_emit hus).bind fun a _ _ _ h => (hf a).mono fun _ _ added _ _ => ?_
    obtain ⟨rfl, rfl⟩ := h
    exact hbegins.append added
  split
  · exact hemit hwritten hbegins fun _ => (takesAs_punct (by decide)).takes.bind fun _ =>
      takes_anyGroup.bind fun _ => takes_pure _
  · refine hemit (fun h => (hsimple h).append (hwritten h)) ?_ fun _ => ?_
    · obtain rfl | hbegins' := hstart
      · exact hbegins
      · exact hbegins'.append written
    · split
      · exact takes_pure _
      · split
        · split
          · exact (takesAs_look _).after fun _ => (takes_moreBoundsLoosely hg _).bind fun _ =>
              takes_pure _
          · exact (takes_pure _).bind fun _ => takes_pure _
        · exact takes_pure _

theorem takesAs_introducedType (plus : Bool) :
    TakesAs plain (introducedType g plus) fun _ _ added => Begins added := by
  refine (takesAs_ahead _).after fun b => ?_
  extract_lets afterParams
  have hafter (introduced : List TokenTree) (hsimple : plain → IsSimple false introduced)
      (hstart : introduced = [] ∨ Begins introduced) :
      TakesAs plain (afterParams ((), introduced)) fun _ _ added => Begins added := by
    have hemit {q : Parse TypeShape} (hq : Opens plain q) :
        TakesAs plain (emit introduced >>= fun _ => q) fun _ _ added => Begins added := by
      refine (takesAs_emit hsimple).bind fun _ _ _ _ h => TakesAs.mono hq fun _ _ added _ h' => ?_
      obtain ⟨rfl, rfl⟩ := h
      obtain rfl | hbegins := hstart
      · exact h'.2
      · exact hbegins.append added
    refine (takesAs_look _).after fun ts => ?_
    split
    · exact hemit ((opens_functionType hg).bind fun _ => takes_pure _)
    · split
      · exact hemit (opens_builtin.bind fun _ => takes_pure _)
      · exact (takesAs_require _).after fun _ => takesAs_pathType hg plus hsimple hstart
  split
  · refine TakesAs.bind (TakesAs.capture (opens_introducedParams hg (takes_anyBound hg))) ?_
    rintro ⟨_, introduced⟩ _ _ - ⟨rfl, hsimple, -, hbegins⟩
    exact hafter introduced hsimple (.inr hbegins)
  · refine (takesAs_pure (Q := fun r front added => r = ((), []) ∧ front = [] ∧ added = [])
      ⟨rfl, rfl, rfl⟩).bind ?_
    rintro _ _ _ - ⟨rfl, rfl, rfl⟩
    exact hafter [] (fun _ => .nil) (.inl rfl)

/-! ## Types in parentheses -/

/-- What stands inside the parentheses of a type. -/
theorem takesAs_inParens : TakesAs plain (inParens g) fun a _ added =>
    match a with
    | .tuple => added = [] ∨ Starts added
    | .lifetimes => Starts added
    | .single t => AreTypeTokens t added := by
  refine (takesAs_ahead _).after fun b => ?_
  split
  · exact takesAs_pure (.inl rfl)
  · refine (takesAs_ahead _).after fun b => ?_
    split
    · refine TakesAs.bind (opens_traitBounds hg true false false) fun _ _ added _ h => ?_
      exact takesAs_pure (h.2.starts.append [])
    · refine (hg true).bind fun t _ added _ h => (takesAs_ahead _).after fun b => ?_
      split
      · refine TakesAs.bind (takesAs_punct (by decide)).takes fun _ _ added' _ _ => ?_
        refine TakesAs.bind (takes_commaList (hg.takes true)) fun _ _ added'' _ _ => ?_
        exact takesAs_pure (.inr (h.starts.append _))
      · exact takesAs_pure (by simpa using h)

theorem takesAs_relaxedBounds :
    TakesAs plain (relaxedBounds g) fun _ _ added => Begins added := by
  have hbound : Opens plain (do let _ ← traitBound g (anyBound g) false : Parse Unit) :=
    (opens_traitBound hg (takes_anyBound hg) false).bind fun _ => takes_pure _
  exact (hbound.paren.bind fun _ => (takesAs_look _).after fun _ =>
    (takes_moreBounds hg _).bind fun _ => takes_pure _).mono fun _ _ _ _ h => h.2

/-- Behind parentheses that have just been taken, what a parser makes of them is added. -/
def TakesOver {α : Type} (plain : Prop) (before : List TokenTree) (p : Parse α)
    (Q : α → List TokenTree → Prop) : Prop :=
  ∀ c a c' front taken, c.taken = before.reverse ++ taken → p.run c = some (a, c') →
    c.rest = front ++ c'.rest → (plain → ∀ t ∈ front, t.IsPlain) →
    ∃ added, c'.taken = added.reverse ++ taken ∧
      (plain → IsSimple false front ∧ IsSimple false added) ∧ Q a added

omit hg in
theorem Parse.TakesAs.bindOver {α β : Type} {p : Parse α} {f : α → Parse β}
    {Q : α → List TokenTree → List TokenTree → Prop} {R : β → List TokenTree → Prop}
    (hp : TakesAs plain p Q)
    (hf : ∀ a front added, (plain → IsSimple false front ∧ IsSimple false added) →
      Q a front added → TakesOver plain added (f a) R) :
    TakesAs plain (p >>= f) fun b _ added => R b added := by
  intro c b c'' front hrun hrest hplain
  obtain ⟨⟨a, c'⟩, hrunp, hrunf⟩ := Option.bind_eq_some_iff.1 hrun
  obtain ⟨front₁, front₂, rfl, hfront₁, hfront₂⟩ := exists_fronts hrunp hrunf hrest
  have hplain' := fun h => List.forall_mem_append.1 (hplain h)
  obtain ⟨added₁, htaken₁, hsimple₁, hq⟩ :=
    hp c a c' front₁ hrunp hfront₁ fun h => (hplain' h).1
  obtain ⟨added, htaken, hsimple, hr⟩ :=
    hf a front₁ added₁ hsimple₁ hq c' b c'' front₂ c.taken htaken₁ hrunf hfront₂
      fun h => (hplain' h).2
  exact ⟨added, htaken, fun h => ⟨(hsimple₁ h).1.append (hsimple h).1, (hsimple h).2⟩, hr⟩

omit hg in
theorem Parse.TakesAs.over {α : Type} {p : Parse α} {before : List TokenTree}
    {Q : α → List TokenTree → List TokenTree → Prop} {R : α → List TokenTree → Prop}
    (h : TakesAs plain p Q) (hbefore : plain → IsSimple false before)
    (hR : ∀ a front added, Q a front added → R a (before ++ added)) :
    TakesOver plain before p R := by
  intro c a c' front taken htaken hrun hrest hplain
  obtain ⟨added, htaken', hsimple, hq⟩ := h c a c' front hrun hrest hplain
  refine ⟨before ++ added, ?_, fun h => ?_, hR a front added hq⟩
  · rw [htaken', htaken, List.reverse_append, List.append_assoc]
  · exact ⟨(hsimple h).1, (hbefore h).append (hsimple h).2⟩

omit hg in
theorem takesOver_ahead {β : Type} {before : List TokenTree} {question : List TokenTree → Bool}
    {f : Bool → Parse β} {R : β → List TokenTree → Prop}
    (h : ∀ b, TakesOver plain before (f b) R) :
    TakesOver plain before (ahead question >>= f) R :=
  fun c => h (question c.rest) c

omit hg in
/-- Two pairs of parentheses become one. -/
theorem takesOver_mergeParens {β : Type} {f : Unit → Parse β} {R : β → List TokenTree → Prop}
    (hf : TakesOver plain [.group .paren ts] (f ()) R)
    (hmerge : ∀ inner, ts = [.group .paren inner] →
      TakesOver plain [.group .paren inner] (f ()) R) :
    TakesOver plain [.group .paren ts] (mergeParens >>= f) R := by
  intro c b c' front taken htaken hrun hrest hplain
  change c.taken = .group .paren ts :: taken at htaken
  rw [mergeParens, run_rewrite_bind, htaken] at hrun
  by_cases hts : ∃ inner, ts = [.group .paren inner]
  · obtain ⟨inner, rfl⟩ := hts
    exact hmerge inner rfl _ b c' front taken rfl hrun hrest hplain
  · refine hf { c with taken := .group .paren ts :: taken } b c' front taken rfl ?_ hrest hplain
    split at hrun
    · rename_i inner before heq
      exact absurd ⟨inner, (TokenTree.group.inj (List.cons.inj heq).1).2⟩ hts
    · exact hrun

/-- A type that starts with parentheses. -/
theorem takesAs_parenType (plus : Bool) :
    TakesAs plain (parenType g plus) fun t _ added => AreTypeTokens t added := by
  refine (takesAs_look _).after fun ts => ?_
  split
  · split
    · exact (takesAs_relaxedBounds hg).mono fun _ _ _ _ h => .inr h
    · refine (TakesAs.group (takesAs_inParens hg)).bindOver ?_
      rintro a front added hsimple ⟨inner, rest, added, -, rfl, hinner⟩
      have hbefore := fun h => (hsimple h).2
      have hother (hstart : Starts added) : TakesOver plain [.group .paren added]
          (pure TypeShape.other : Parse TypeShape) fun t added => AreTypeTokens t added :=
        (takes_pure TypeShape.other).over hbefore fun _ _ us _ => .inr (begins_paren hstart)
      cases a with
      | tuple =>
        refine (takesAs_pure (Q := fun t _ us => t = TypeShape.other ∧ us = [])
          ⟨rfl, rfl⟩).over hbefore ?_
        rintro _ - _ ⟨rfl, rfl⟩
        obtain rfl | hstart := hinner
        · exact .inl ⟨rfl, rfl⟩
        · exact .inr (begins_paren hstart)
      | lifetimes => exact hother hinner
      | single t =>
        change AreTypeTokens t added at hinner
        have hmore {inner : List TokenTree} (hbegins : Begins [.group .paren inner])
            (hsimple : plain → IsSimple false [.group .paren inner]) :
            TakesOver plain [.group .paren inner] (do
              let more ← moreBounds g ((← Parse.rest).length + 1)
              return TypeShape.bounds false (more + 1) false true)
              fun t added => AreTypeTokens t added := by
          have htakes : Takes plain (do
              let more ← moreBounds g ((← Parse.rest).length + 1)
              return TypeShape.bounds false (more + 1) false true) :=
            (takesAs_look _).after fun _ => (takes_moreBounds hg _).bind fun _ => takes_pure _
          exact htakes.over hsimple fun _ _ us _ => .inr (hbegins.append us)
        have hkept := hmore (begins_paren hinner.starts) hbefore
        refine takesOver_ahead fun b => ?_
        dsimp only
        split
        · split
          · refine takesOver_mergeParens hkept fun inner hadded => ?_
            subst hadded
            obtain ⟨hshape, -⟩ | hbegins := hinner
            · cases hshape
            · refine hmore hbegins fun h => ?_
              cases hbefore h with
              | group _ hinner _ => exact hinner
          · exact hkept
        · exact hother hinner.starts
  · exact takesAs_failure

/-! ## Types -/

theorem takesAs_typeOf (plus : Bool) :
    TakesAs plain (typeOf g plus) fun t _ added => AreTypeTokens t added := by
  have hopens {p : Parse TypeShape} (h : Opens plain p) :
      TakesAs plain p fun t _ added => AreTypeTokens t added := h.mono fun _ _ _ _ h => .inr h.2
  refine (takesAs_look _).after fun ts => ?_
  split
  · exact takesAs_parenType hg plus
  · split
    · exact (takesAs_introducedType hg plus).mono fun _ _ _ _ h => .inr h
    · split
      · exact hopens (opens_dynType hg plus)
      · split
        · exact hopens (opens_bracketType hg)
        · split
          · exact hopens (opens_pointerType hg)
          · split
            · exact hopens (opens_referenceType hg)
            · split
              · exact hopens ((opens_punct (by decide) (by decide)).bind fun _ => takes_pure _)
              · split
                · exact hopens ((opens_word _).bind fun _ =>
                    (opens_traitBounds hg plus true true).takes.bind fun _ => takes_pure _)
                · split
                  · exact hopens ((opens_word _).bind fun _ => takes_pure _)
                  · split
                    · exact hopens ((opens_traitBounds hg true false false).bind fun _ =>
                        takes_pure _)
                    · exact takesAs_failure

end

theorem takesTypes_ofDepth (n : Nat) : TakesTypes plain (.ofDepth n) := by
  induction n with
  | zero => exact fun _ => takesAs_failure
  | succ n ih =>
    intro plus
    have htype := takesAs_typeOf ih plus
    exact htype

end EndpointStubs.Syntax
