import EndpointStubs.Proofs.Syntax.TypeTokens

/-!
# What functions return

The functions of a source are those of its traits and implementations and those that stand alone, in
modules or not. Where one of them names the type that it returns, the tokens kept of it are those of
a type.

    fileItems? text = some items, f ∈ functionsOf items, f.returns? = some ts  →  AreTypeTokens t ts
-/

namespace EndpointStubs.Syntax

open Parse

/-! ## The functions of items -/

mutual

/-- The functions of an item that markers count at. -/
def functions : Item → List Function
  | .trait _ _ fs => fs
  | .implementation (some _) fs => fs
  | .function f => [f]
  | .module _ items => functionsOf items
  | .implementation none _ | .type _ _ | .other | .asWritten => []

/-- The functions of items that markers count at, in order. -/
def functionsOf : List Item → List Function
  | [] => []
  | i :: is => functions i ++ functionsOf is

end

theorem mem_functionsOf {f : Function} {is : List Item} :
    f ∈ functionsOf is ↔ ∃ i ∈ is, f ∈ functions i := by
  induction is with
  | nil => simp [functionsOf]
  | cons i is ih => simp [functionsOf, ih]

/-- The tokens of the return type are those of a type. -/
def Function.ReturnsType (f : Function) : Prop :=
  ∀ ts, f.returns? = some ts → ∃ t, AreTypeTokens t ts

def Item.ReturnsTypes (i : Item) : Prop := ∀ f ∈ functions i, f.ReturnsType

/-! ## Answers -/

namespace Parse

variable {α β : Type} {p : Parse α} {f : α → Parse β} {P : α → Prop} {Q : β → Prop}

/-- Whatever the tokens are, an answer has the property. -/
def Answers (p : Parse α) (P : α → Prop) : Prop := ∀ c a c', p.run c = some (a, c') → P a

theorem Answers.bind (hp : Answers p P) (hf : ∀ a, P a → Answers (f a) Q) :
    Answers (p >>= f) Q := by
  intro c b c'' hrun
  obtain ⟨⟨a, c'⟩, hrunp, hrunf⟩ := Option.bind_eq_some_iff.1 hrun
  exact hf a (hp c a c' hrunp) c' b c'' hrunf

/-- Only what comes last counts. -/
theorem Answers.last (hf : ∀ a, Answers (f a) Q) : Answers (p >>= f) Q :=
  Answers.bind (P := fun _ => True) (fun _ _ _ _ => trivial) fun a _ => hf a

theorem answers_pure {a : α} (h : P a) : Answers (pure a) P := by
  rintro c _ _ ⟨⟩
  exact h

theorem answers_failure : Answers (failure : Parse α) P := nofun

/-- A step that is left out or not, and what comes after it. -/
theorem Answers.optional {b : Prop} [Decidable b] {p : Parse Unit} {f : Unit → Parse β}
    (hf : ∀ a, Answers (f a) Q) : Answers (if b then p >>= f else f ()) Q := by
  split
  · exact .last hf
  · exact hf ()

theorem Answers.ite {b : Prop} [Decidable b] {p q : Parse α} (hp : Answers p P)
    (hq : Answers q P) : Answers (if b then p else q) P := by
  split
  · exact hp
  · exact hq

theorem Answers.asWrittenIf {p : Parse (α × Bool)} (h : Answers p fun r => P r.1) :
    Answers (asWrittenIf p) P := by
  intro c a c' hrun
  obtain ⟨⟨r, c''⟩, hp, hout⟩ := Option.map_eq_some_iff.1 hrun
  obtain ⟨rfl, -⟩ := Prod.mk.inj hout
  exact h c r c'' hp

theorem Answers.group {d : Delimiter} (h : Answers p P) : Answers (group d p) P := by
  intro c a c' hrun
  obtain ⟨inner, outside, r, -, hp, -, -⟩ := exists_of_run_group hrun
  exact h _ a r hp

theorem Answers.manyUpTo (h : Answers p P) (n : Nat) :
    Answers (manyUpTo p n) fun as => ∀ a ∈ as, P a := by
  induction n with
  | zero => exact answers_failure
  | succ n ih =>
    rw [Parse.manyUpTo]
    refine .last fun b => ?_
    split
    · exact answers_pure (by simp)
    · exact .bind h fun a ha => .bind ih fun as has =>
        answers_pure (List.forall_mem_cons.2 ⟨ha, has⟩)

theorem Answers.many (h : Answers p P) : Answers (many p) fun as => ∀ a ∈ as, P a :=
  .last fun _ => h.manyUpTo _

end Parse

/-! ## Functions -/

variable {g : Grammar}

/-- What is noted of a type are its tokens. -/
theorem answers_noting (hg : TakesTypes False g) (plus : Bool) :
    Answers (noting (g.type plus)) fun r => ∃ t, AreTypeTokens t r.2 := by
  refine .bind (P := fun r => AreTypeTokens r.1 r.2) ?_ fun r hr =>
    .last fun _ => answers_pure ⟨r.1, hr⟩
  intro c r c' hrun
  obtain ⟨front, hfront⟩ := (capture (g.type plus)).leavesEnd hrun
  obtain ⟨added, -, -, -, -, h⟩ := (hg plus).capture c r c' front hrun hfront.symm nofun
  exact h

theorem answers_signature (hg : TakesTypes False g) :
    Answers (signature g) fun r => ∀ ts, r.2 = some ts → ∃ t, AreTypeTokens t ts := by
  refine .last fun _ => .last fun _ => .last fun name => .last fun _ => .last fun _ =>
    .last fun b => ?_
  extract_lets done
  have hdone {returns : Option (List TokenTree)}
      (h : ∀ ts, returns = some ts → ∃ t, AreTypeTokens t ts) :
      Answers (pure returns >>= done) fun r => ∀ ts, r.2 = some ts → ∃ t, AreTypeTokens t ts :=
    .bind (answers_pure rfl) fun _ hr => .last fun _ => answers_pure (hr ▸ h)
  split
  · refine .bind (answers_noting hg true) fun r hr => hdone fun ts hts => ?_
    obtain rfl := Option.some.inj hts
    exact hr
  · exact hdone nofun

theorem answers_traitFunction (hg : TakesTypes False g) (attributes : List Attribute) :
    Answers (traitFunction g attributes) Function.ReturnsType := by
  refine .bind (answers_signature hg) fun r hr => .last fun b => ?_
  split
  · exact answers_pure hr
  · exact .last fun inner => answers_pure hr

/-- Nothing else in a trait or an implementation is a function. -/
theorem answers_none (b : Bool) :
    Answers (pure ((none : Option Function), b)) fun r => ∀ f ∈ r.1, f.ReturnsType :=
  answers_pure nofun

theorem answers_traitItem (hg : TakesTypes False g) :
    Answers (traitItem g) fun r => ∀ f ∈ r, f.ReturnsType := by
  refine .asWrittenIf (.last fun attributes => .last fun visible => .last fun default =>
    .last fun ts => .last fun starts => ?_)
  dsimp only
  split
  · refine .bind (answers_traitFunction hg attributes) fun f hf => answers_pure ?_
    split
    · exact nofun
    · rintro _ ⟨⟩
      exact hf
  · split
    · exact .last fun _ => answers_none _
    · split
      · exact .last fun _ => answers_none _
      · exact .last fun _ => .last fun _ => answers_none _

theorem answers_implementationItem (hg : TakesTypes False g) :
    Answers (implementationItem g) fun r => ∀ f ∈ r, f.ReturnsType := by
  refine .asWrittenIf (.last fun attributes => .last fun visible => .last fun b => ?_)
  extract_lets afterDefault
  have hafter (b : Bool) : Answers (afterDefault b) fun r => ∀ f ∈ r.1, f.ReturnsType := by
    refine .last fun ts => .last fun starts => ?_
    split
    · refine .bind (answers_signature hg) fun r hr => .last fun b => ?_
      split
      · exact answers_none _
      · refine .last fun inner => answers_pure ?_
        rintro _ ⟨⟩
        exact hr
    · split
      · exact .last fun _ => answers_none _
      · split
        · exact .last fun _ => answers_none _
        · exact .last fun _ => .last fun _ => answers_none _
  split
  · exact .last hafter
  · exact .last hafter

/-! ## Items -/

theorem returnsType_of_mem_filterMap {fs : List (Option Function)}
    (h : ∀ r ∈ fs, ∀ f ∈ r, f.ReturnsType) : ∀ f ∈ fs.filterMap id, f.ReturnsType := by
  intro f hf
  obtain ⟨r, hr, hrf⟩ := List.mem_filterMap.1 hf
  exact h r hr f hrf

theorem answers_traitRest (hg : TakesTypes False g) (attributes : List Attribute) (name : Word) :
    Answers (traitRest g attributes name) Item.ReturnsTypes :=
  .last fun _ => .last fun _ => .group <| .last fun _ =>
    .bind (answers_traitItem hg).many fun _ hfs =>
      answers_pure (returnsType_of_mem_filterMap hfs)

/-- An item without functions. -/
theorem answers_noFunctions {i : Item} (h : functions i = []) :
    Answers (pure i) Item.ReturnsTypes := by
  refine answers_pure fun f hf => ?_
  rw [h] at hf
  cases hf

theorem answers_asWrittenUnless (b : Bool) :
    Answers (pure (if b then Item.other else Item.asWritten)) Item.ReturnsTypes :=
  answers_noFunctions (by cases b <;> rfl)

theorem answers_staticItem : Answers (staticItem g) Item.ReturnsTypes := by
  refine .last fun _ => .last fun _ => .last fun _ => .last fun untyped => .ite ?_ ?_
  · exact .last fun _ => answers_noFunctions rfl
  · exact .last fun _ => .last fun _ => .last fun _ => answers_asWrittenUnless _

theorem answers_constantItem : Answers (constantItem g) Item.ReturnsTypes :=
  .last fun _ => answers_asWrittenUnless _

theorem answers_typeNameItem : Answers (typeNameItem g) Item.ReturnsTypes :=
  .last fun _ => answers_asWrittenUnless _

theorem answers_traitOrBounds (hg : TakesTypes False g) (attributes : List Attribute)
    (plain : Bool) : Answers (traitOrBounds g attributes plain) Item.ReturnsTypes := by
  refine .last fun _ => .last fun name => .last fun _ => .last fun b => ?_
  split
  · exact .last fun _ => .last fun _ => .last fun _ => answers_noFunctions rfl
  · exact answers_traitRest hg attributes name

theorem answers_implementation (hg : TakesTypes False g) (visible : Bool) :
    Answers (implementation g visible) Item.ReturnsTypes := by
  refine .last fun _ => .last fun _ => .last fun _ => .last fun b => ?_
  extract_lets afterParams
  have hparams : Answers (afterParams ()) Item.ReturnsTypes := by
    refine .last fun conditional => ?_
    extract_lets body afterMark
    have hbody (r : Option Word × Bool) : Answers (body r) Item.ReturnsTypes := by
      refine .last fun _ => .bind (.group (.last fun _ => (answers_implementationItem hg).many))
        fun fs hfs => ?_
      split
      · exact answers_noFunctions rfl
      · obtain ⟨owner | owner, _⟩ := r
        · exact answers_noFunctions rfl
        · exact answers_pure (returnsType_of_mem_filterMap hfs)
    have hmark (a : Unit) : Answers (afterMark a) Item.ReturnsTypes := by
      refine .last fun negative => .optional fun _ => .last fun first => .last fun b => ?_
      exact .ite (.last fun _ => .last hbody) (.last fun _ => .last hbody)
    exact .ite (.last fun _ => .last hmark) (hmark ())
  exact .ite (.last fun _ => hparams) hparams

theorem answers_moduleItem (hitem : Answers g.item Item.ReturnsTypes) :
    Answers (moduleItem g) Item.ReturnsTypes := by
  refine .last fun _ => .last fun _ => .last fun b => ?_
  extract_lets afterName
  have hname (name : Word) : Answers (afterName name) Item.ReturnsTypes := by
    refine .last fun b => ?_
    split
    · exact answers_noFunctions rfl
    · refine .group <| .last fun _ => .bind hitem.many fun items hitems =>
        answers_pure fun f hf => ?_
      obtain ⟨i, hi, hf⟩ := mem_functionsOf.1 hf
      exact hitems i hi f hf
  split
  · exact .last hname
  · exact .last hname

theorem answers_typeItem (attributes : List Attribute) :
    Answers (typeItem g attributes) Item.ReturnsTypes := by
  refine .last fun kind => .last fun name => .last fun _ => ?_
  split
  · exact .last fun _ => answers_noFunctions rfl
  · split
    · exact .last fun _ => answers_noFunctions rfl
    · exact .last fun _ => .last fun _ => .last fun _ => answers_noFunctions rfl

theorem answers_functionItem (hg : TakesTypes False g) (attributes : List Attribute) :
    Answers (functionItem g attributes) Item.ReturnsTypes := by
  refine .bind (answers_signature hg) fun r hr => .last fun b => ?_
  split
  · exact answers_noFunctions rfl
  · exact .last fun inner => answers_pure (List.forall_mem_singleton.2 hr)

theorem answers_itemRest (hg : TakesTypes False g) (hitem : Answers g.item Item.ReturnsTypes)
    (attributes : List Attribute) (visible : Bool) :
    Answers (itemRest g attributes visible) Item.ReturnsTypes := by
  have hother {p : Parse Unit} : Answers (p >>= fun _ => pure Item.other) Item.ReturnsTypes :=
    .last fun _ => answers_noFunctions rfl
  refine .last fun ts => .last fun starts => ?_
  dsimp only
  have htrait {p : Parse Unit} {q : Parse Bool} :
      Answers (do p; let _ ← q; traitOrBounds g attributes false) Item.ReturnsTypes :=
    .last fun _ => .last fun _ => answers_traitOrBounds hg attributes false
  exact .ite (answers_functionItem hg attributes) <|
    .ite (.ite hother (.last fun _ => hother)) <| .ite hother <| .ite answers_staticItem <|
    .ite answers_constantItem <| .ite htrait <| .ite (.last fun _ => hother) <|
    .ite (answers_moduleItem hitem) <| .ite (answers_implementation hg visible) <|
    .ite answers_typeNameItem <| .ite (answers_typeItem attributes) <|
    .ite (answers_typeItem attributes) <| .ite (answers_traitOrBounds hg attributes true) <|
    .ite (.last fun _ => answers_traitOrBounds hg attributes false) <|
    .ite (answers_implementation hg visible) <| .ite hother <| .last fun _ => hother

theorem answers_item (n : Nat) : Answers (Grammar.ofDepth n).item Item.ReturnsTypes := by
  induction n with
  | zero => exact answers_failure
  | succ n ih =>
    have hitem : Answers (itemOf (.ofDepth n)) Item.ReturnsTypes :=
      .asWrittenIf (.last fun _ => .last fun _ =>
        .bind (answers_itemRest (takesTypes_ofDepth n) ih _ _) fun _ hi => answers_pure hi)
    exact hitem

/-- The functions of a source return types. -/
theorem returnsType_of_fileItems? {text : String} {items : List Item}
    (h : fileItems? text = some items) {f : Function} (hf : f ∈ functionsOf items) :
    f.ReturnsType := by
  obtain ⟨ts, -, hparse⟩ := Option.bind_eq_some_iff.1 h
  obtain ⟨⟨is, c⟩, hrun, hend⟩ := Option.bind_eq_some_iff.1 hparse
  have hanswers : Answers (do let _ ← innerAttributes (.for ts); many (Grammar.for ts).item)
      fun is => ∀ i ∈ is, i.ReturnsTypes := .last fun _ => (answers_item _).many
  have hall := hanswers _ is c hrun
  dsimp only at hend
  split at hend
  · obtain rfl := Option.some.inj hend
    obtain ⟨i, hi, hf⟩ := mem_functionsOf.1 hf
    exact hall i hi f hf
  · cases hend

end EndpointStubs.Syntax
