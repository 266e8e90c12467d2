import EndpointStubs.Source.Declarations
import EndpointStubs.Proofs.QualifiedName
import EndpointStubs.Proofs.Source.InTurn

/-!
# Sites of declarations

A site is a place in source text where markers count: a type, a trait, a function. The sites of
items are listed as they stand in the text, whatever the depth of the modules around them, each
with what its name is made of. The declarations of items are the marked sites, in that order.

    ofItems package items = .ok ds →
      ds = ((sitesOf [] items).filter marked).map (declaration package)       (ofItems_sites)
    name of a site = package . modules . owner . identifier
-/

namespace EndpointStubs.Source

open Syntax

/-! ## Sites -/

/-- A place where markers count. -/
structure Site where
  /-- The modules of the file around it, from outside in. -/
  modules : List Word
  /-- The trait or the type that holds it. -/
  owner? : Option Word
  identifier : Word
  attributes : List Attribute
  declaredType : Option String

namespace Site

def ofType (modules : List Word) (attributes : List Attribute) (name : Word) : Site :=
  { modules, owner? := none, identifier := name, attributes, declaredType := none }

/-- A function that `owner?` holds. -/
def ofFunction (modules : List Word) (owner? : Option Word) (f : Function) : Site :=
  { modules, owner?, identifier := f.name, attributes := f.attributes,
    declaredType := some (Source.declaredType f) }

/-- What stands around a site in its file. -/
def scope (s : Site) : List Word := s.modules ++ s.owner?.toList

/-- The scope of a site whose file is a package. -/
def scopeIn (package : List String) (s : Site) : List String := package ++ s.scope.map Word.text

/-- The dotted name of a site in a package. -/
def name (package : List String) (s : Site) : String :=
  packageName (s.scopeIn package ++ [s.identifier.text])

/-- The markers of a site; none if they cannot be read. -/
def markers (s : Site) : List Marker := (Marker.ofAttributes s.attributes).toOption.getD []

/-- The markers of a site cannot be read. -/
def Unreadable (s : Site) : Prop := ∃ e, Marker.ofAttributes s.attributes = .error e

/-- What a marked site declares. -/
def declaration (package : List String) (s : Site) : Declaration :=
  { name := s.name package, markers := s.markers, declaredType := s.declaredType }

end Site

def members (modules : List Word) : Item → List Site
  | .type attributes name => [Site.ofType modules attributes name]
  | .trait attributes name functions =>
    Site.ofType modules attributes name :: functions.map (Site.ofFunction modules (some name))
  | .implementation (some owner) functions => functions.map (Site.ofFunction modules (some owner))
  | .function f => [Site.ofFunction modules none f]
  | .implementation none _ | .module _ _ | .other | .asWritten => []

mutual

/-- The sites of an item inside modules: those of the items of a module are inside it too. -/
def sites (modules : List Word) : Item → List Site
  | .module name items => sitesOf (modules ++ [name]) items
  | i => members modules i

def sitesOf (modules : List Word) : List Item → List Site
  | [] => []
  | i :: is => sites modules i ++ sitesOf modules is

end

/-! ## Names -/

theorem packageName_ne_empty {package : List String} (hne : package ≠ [])
    (h : ∀ s ∈ package, s ≠ "") : packageName package ≠ "" := by
  obtain ⟨s, ss, rfl⟩ := List.exists_cons_of_ne_nil hne
  have hs : s.toList ≠ [] := by simpa using h s List.mem_cons_self
  intro e
  have hj : Text.join ['.'] ((s :: ss).map String.toList) = [] := by
    simpa [packageName, Text.joinStrings] using e
  cases ss with
  | nil => exact hs hj
  | cons t ts =>
    rw [List.map_cons, Text.join_cons_of_ne_nil _ _ (by simp)] at hj
    simp at hj

@[simp] theorem packageName_singleton (name : String) : packageName [name] = name := by
  simp [packageName, Text.joinStrings, Text.join]

theorem packageName_append {package names : List String} (hp : package ≠ []) (hn : names ≠ []) :
    packageName (package ++ names) = packageName package ++ "." ++ packageName names := by
  apply String.toList_injective
  have hp' : package.map String.toList ≠ [] := by simpa using hp
  have hn' : names.map String.toList ≠ [] := by simpa using hn
  simp only [packageName, Text.joinStrings, List.map_append, String.toList_append,
    String.toList_ofList]
  exact Text.join_append _ hp' hn'

/-- Qualifying puts names behind those of the package. -/
theorem qualify_packageName_append {package names : List String} (hp : ∀ n ∈ package, n ≠ "")
    (hn : names ≠ []) :
    QualifiedName.qualify (packageName package) (packageName names) =
      packageName (package ++ names) := by
  by_cases hempty : package = []
  · subst hempty
    rfl
  · rw [packageName_append hempty hn, QualifiedName.qualify,
      if_neg (packageName_ne_empty hempty hp)]

theorem qualify_packageName {package : List String} (h : ∀ s ∈ package, s ≠ "") (name : String) :
    QualifiedName.qualify (packageName package) name = packageName (package ++ [name]) := by
  simpa using qualify_packageName_append h (List.cons_ne_nil name [])

/-- Splitting a dotted name takes its last part off. -/
theorem split_packageName (scope : List String) {name : String} (h : '.' ∉ name.toList) :
    QualifiedName.split (packageName (scope ++ [name])) = (packageName scope, name) := by
  by_cases hne : scope = []
  · subst hne
    rw [List.nil_append, packageName_singleton, QualifiedName.split_of_not_mem h]
    rfl
  · rw [packageName_append hne (List.cons_ne_nil name []), packageName_singleton,
      QualifiedName.split_append h]

/-! ## Declarations of sites -/

/-- The declarations of sites, read one after the other. -/
def gather (package : List String) (ss : List Site) : Except MarkerError (List Declaration) := do
  return (← ss.mapM fun s => marked s.attributes (s.name package) s.declaredType).flatten

theorem gather_cons (package : List String) (s : Site) (ss : List Site) :
    gather package (s :: ss) = do
      return (← marked s.attributes (s.name package) s.declaredType) ++ (← gather package ss) :=
  inTurn_cons s ss

theorem gather_append (package : List String) (ss ts : List Site) :
    gather package (ss ++ ts) = do return (← gather package ss) ++ (← gather package ts) :=
  inTurn_append ss ts

theorem gather_singleton (package : List String) (s : Site) :
    gather package [s] = marked s.attributes (s.name package) s.declaredType :=
  inTurn_singleton s

/-- What is gathered are the declarations of the marked sites. -/
theorem gather_eq_ok {package : List String} {ss : List Site} {ds : List Declaration}
    (h : gather package ss = .ok ds) :
    ds = (ss.filter fun s => s.markers ≠ []).map (Site.declaration package) := by
  induction ss generalizing ds with
  | nil => cases h; rfl
  | cons s ss ih =>
    rw [gather_cons, marked] at h
    cases hm : Marker.ofAttributes s.attributes with
    | error e => rw [hm] at h; cases h
    | ok ms =>
      cases hg : gather package ss with
      | error e => rw [hm, hg] at h; cases h
      | ok es =>
        rw [hm, hg] at h
        have hs : s.markers = ms := by rw [Site.markers, hm]; rfl
        have hd : ds = (if ms.isEmpty then []
            else [{ name := s.name package, markers := ms, declaredType := s.declaredType }]) ++ es :=
          (Except.ok.inj h).symm
        rw [hd, ih hg]
        cases ms with
        | nil => rw [List.filter_cons_of_neg (by simp [hs])]; rfl
        | cons m ms =>
          rw [List.filter_cons_of_pos (by simp [hs]), List.map_cons, Site.declaration, hs]
          rfl

theorem marked_error_iff (package : List String) (s : Site) :
    (∃ e, marked s.attributes (s.name package) s.declaredType = .error e) ↔ s.Unreadable := by
  unfold marked Site.Unreadable
  cases Marker.ofAttributes s.attributes with
  | error e => exact ⟨fun _ => ⟨e, rfl⟩, fun _ => ⟨e, rfl⟩⟩
  | ok ms =>
    constructor
    · rintro ⟨e, he⟩
      cases he
    · rintro ⟨e, he⟩
      cases he

/-- Gathering fails exactly at an unreadable site. -/
theorem gather_error_iff (package : List String) (ss : List Site) :
    (∃ e, gather package ss = .error e) ↔ ∃ s ∈ ss, s.Unreadable := by
  simp only [← marked_error_iff package]
  exact exists_inTurn_eq_error_iff

/-! ## Items -/

/-- A scope whose package has no empty segment has none. -/
theorem ne_empty_of_mem_scope {package : List String} (hp : ∀ n ∈ package, n ≠ "")
    (ws : List Word) : ∀ n ∈ package ++ ws.map Word.text, n ≠ "" := by
  intro n hn
  rcases List.mem_append.1 hn with hn | hn
  · exact hp n hn
  · obtain ⟨w, -, rfl⟩ := List.mem_map.1 hn
    exact w.text_ne_empty

theorem qualify_scope {package : List String} (hp : ∀ n ∈ package, n ≠ "") (ws : List Word)
    (w : Word) : QualifiedName.qualify (packageName (package ++ ws.map Word.text)) w.text =
      packageName (package ++ (ws ++ [w]).map Word.text) := by
  rw [qualify_packageName (ne_empty_of_mem_scope hp ws), List.append_assoc, List.map_append]
  rfl

theorem ofFunctions_cons (scope : String) (f : Function) (fs : List Function) :
    ofFunctions scope (f :: fs) = do
      return (← ofFunction scope f) ++ (← ofFunctions scope fs) :=
  inTurn_cons f fs

section
variable {package : List String} (hp : ∀ n ∈ package, n ≠ "") (modules : List Word)
include hp

theorem ofFunction_eq (owner? : Option Word) (f : Function) :
    ofFunction (packageName (package ++ (modules ++ owner?.toList).map Word.text)) f =
      marked f.attributes ((Site.ofFunction modules owner? f).name package)
        (some (declaredType f)) := by
  rw [ofFunction, qualify_packageName (ne_empty_of_mem_scope hp _)]
  rfl

/-- The functions of a trait or a type declare what their sites do. -/
theorem ofFunctions_eq_gather (owner : Word) (functions : List Function) :
    ofFunctions
        (QualifiedName.qualify (packageName (package ++ modules.map Word.text)) owner.text)
        functions =
      gather package (functions.map (Site.ofFunction modules (some owner))) := by
  rw [qualify_scope hp]
  induction functions with
  | nil => rfl
  | cons f fs ih =>
    have hf := ofFunction_eq hp modules (some owner) f
    rw [Option.toList_some] at hf
    rw [ofFunctions_cons, ih, List.map_cons, gather_cons, hf]
    rfl

/-- A type or a trait declares what its site does. -/
theorem marked_eq_gather (attributes : List Attribute) (name : Word) :
    marked attributes
        (QualifiedName.qualify (packageName (package ++ modules.map Word.text)) name.text) none =
      gather package [Site.ofType modules attributes name] := by
  have hs : (Site.ofType modules attributes name).scope = modules := List.append_nil _
  rw [gather_singleton, qualify_packageName (ne_empty_of_mem_scope hp modules), Site.name,
    Site.scopeIn, hs]
  rfl

/-- An item that is no module declares what its members do. -/
theorem ofItem_eq_gather_members {i : Item} (hi : ∀ name items, i ≠ .module name items) :
    ofItem (package ++ modules.map Word.text) i = gather package (members modules i) := by
  cases i with
  | type attributes name => rw [ofItem, members, marked_eq_gather hp]
  | trait attributes name functions =>
    rw [ofItem, members, ← List.singleton_append, gather_append, marked_eq_gather hp,
      ofFunctions_eq_gather hp]
  | implementation owner? functions =>
    cases owner? with
    | none => rw [ofItem]; rfl
    | some owner => rw [ofItem, members, ofFunctions_eq_gather hp]
  | function f =>
    have hf := ofFunction_eq hp modules none f
    rw [Option.toList_none, List.append_nil] at hf
    rw [ofItem, members, gather_singleton, hf]
    rfl
  | module name items => exact absurd rfl (hi name items)
  | other => rw [ofItem]; rfl
  | asWritten => rw [ofItem]; rfl

end

mutual

/-- The declarations of an item are gathered from its sites. -/
theorem ofItem_eq_gather {package : List String} (hp : ∀ n ∈ package, n ≠ "") (i : Item)
    (modules : List Word) :
    ofItem (package ++ modules.map Word.text) i = gather package (sites modules i) := by
  by_cases hi : ∃ name items, i = .module name items
  · obtain ⟨name, items, rfl⟩ := hi
    have h := ofItems_eq_gather hp items (modules ++ [name])
    rw [List.map_append] at h
    rw [ofItem, sites, ← h, List.append_assoc]
    rfl
  · have hm : sites modules i = members modules i := by
      cases i with
      | module name items => exact absurd ⟨name, items, rfl⟩ hi
      | _ => rw [sites]; simp
    rw [hm]
    exact ofItem_eq_gather_members hp modules fun name items e => hi ⟨name, items, e⟩

/-- The declarations of items are gathered from their sites. -/
theorem ofItems_eq_gather {package : List String} (hp : ∀ n ∈ package, n ≠ "") (is : List Item)
    (modules : List Word) :
    ofItems (package ++ modules.map Word.text) is = gather package (sitesOf modules is) := by
  cases is with
  | nil => rfl
  | cons i is =>
    rw [sitesOf, ofItems, gather_append, ofItem_eq_gather hp i modules,
      ofItems_eq_gather hp is modules]

end

end EndpointStubs.Source
