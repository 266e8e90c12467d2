import EndpointStubs.Proofs.QualifiedName
import EndpointStubs.Scan

/-!
# Derived names of a model

Whatever facts a model has been given, its controller's name is a simple name: it comes from
splitting a qualified name, and the facts of a handler leave it alone. So both qualified names of a
model split into its package and the simple name that they were made from, and as the simple names
of a stub and of a base end differently, the two never agree.

    m.Reachable → split m.stubName = (m.packageName, m.stubClassName)
    m.Reachable → split m.stubBaseFullName = (m.packageName, "StubBase")
    m.Reachable → m.stubName ≠ m.stubBaseFullName
-/

namespace EndpointStubs

open QualifiedName (split qualify)

namespace EndpointModel

/-- The models that the empty one becomes by facts of controllers and of handlers, in any order. -/
inductive Reachable : EndpointModel → Prop
  | empty : Reachable {}
  | controller {m : EndpointModel} (h : Reachable m) (name : String) (root : Option String) :
      Reachable (m.withController name root)
  | route {m : EndpointModel} (h : Reachable m) (simpleName : String) (sub : Option String)
      (declaredType : String) : Reachable (m.withRoute simpleName sub declaredType)

variable {m : EndpointModel}

/-! ## Simple names -/

/-- The controller's name has no dot. -/
def SimplyNamed (m : EndpointModel) : Prop := ∀ name, m.controller? = some name → '.' ∉ name.toList

theorem simplyNamed_empty : SimplyNamed {} := nofun

/-- Of a controller's qualified name only the simple name is kept. -/
theorem simplyNamed_withController (m : EndpointModel) (name : String) (root : Option String) :
    (m.withController name root).SimplyNamed := by
  intro simple h
  obtain rfl : (split name).2 = simple := Option.some.inj h
  exact QualifiedName.dot_not_mem_split name

/-- A handler's facts do not touch the controller's name. -/
theorem SimplyNamed.withRoute (h : m.SimplyNamed) (simpleName : String) (sub : Option String)
    (declaredType : String) : (m.withRoute simpleName sub declaredType).SimplyNamed := h

-- The invariant along the facts that a model is given.
theorem Reachable.simplyNamed (h : m.Reachable) : m.SimplyNamed := by
  induction h with
  | empty => exact simplyNamed_empty
  | @controller m _ name root _ => exact simplyNamed_withController m name root
  | route _ simpleName sub declaredType ih => exact ih.withRoute simpleName sub declaredType

theorem SimplyNamed.dot_not_mem_stubClassName (h : m.SimplyNamed) :
    '.' ∉ m.stubClassName.toList := by
  have hname : '.' ∉ (m.controller?.getD "").toList := by
    cases hc : m.controller? with
    | none => simp
    | some name => exact h name hc
  have hsuffix : '.' ∉ stubSuffix.toList := by decide
  unfold stubClassName
  rw [String.toList_append, List.mem_append]
  exact not_or.2 ⟨hname, hsuffix⟩

theorem dot_not_mem_stubBaseName : '.' ∉ stubBaseName.toList := by decide

/-- The class of a stub is never called like the base: their names end in different letters. -/
theorem stubClassName_ne (m : EndpointModel) : m.stubClassName ≠ stubBaseName := by
  intro h
  have := congrArg (fun s => s.toList.getLast?) h
  simp [stubClassName, stubSuffix, stubBaseName] at this

/-! ## Scanned models -/

theorem Reachable.addTo (h : m.Reachable) (d : Declaration) : (d.addTo m).Reachable := by
  unfold Declaration.addTo
  split
  · exact h.controller _ _
  · exact h.route _ _ _
  · exact h
  · exact h

/-- A scan gives facts of controllers and handlers, one declaration after the other. -/
theorem reachable_scan (ds : List Declaration) : (scan ds).Reachable :=
  List.foldlRecOn ds (fun m d => d.addTo m) .empty fun _ h d _ => h.addTo d

/-! ## Qualified names -/

/-- **Derived names.** The qualified names of a model that is made of facts split into its package
and the name of the stub's class, or of the base, and they differ. In general, splitting undoes
joining exactly for simple names without dots, and joining undoes splitting exactly for names that
are not a dot in front of a text without dots. -/
theorem derived_names_agree :
    (∀ m : EndpointModel, m.Reachable →
      split m.stubName = (m.packageName, m.stubClassName) ∧
      split m.stubBaseFullName = (m.packageName, "StubBase") ∧
      m.stubName ≠ m.stubBaseFullName) ∧
    (∀ package simple, split (qualify package simple) = (package, simple) ↔ '.' ∉ simple.toList) ∧
    ∀ name, qualify (split name).1 (split name).2 = name ↔
      ¬∃ simple, '.' ∉ simple.toList ∧ name = "." ++ simple := by
  refine ⟨fun m hm => ?_, QualifiedName.split_qualify_iff, QualifiedName.qualify_split_iff⟩
  have hstub : split m.stubName = (m.packageName, m.stubClassName) :=
    QualifiedName.split_qualify hm.simplyNamed.dot_not_mem_stubClassName m.packageName
  have hbase : split m.stubBaseFullName = (m.packageName, stubBaseName) :=
    QualifiedName.split_qualify dot_not_mem_stubBaseName m.packageName
  refine ⟨hstub, hbase, ?_⟩
  intro hsame
  rw [hsame, hbase] at hstub
  exact m.stubClassName_ne (congrArg Prod.snd hstub).symm

/-- A controller called like the base, then one whose name ends in dots, and a handler. -/
theorem derived_names_agree_trailing :
    let m := (({} : EndpointModel).withController "a.StubBase" none).withController "com..acme.."
      (some "/api")
    (m.withRoute "get" none "Order()").Reachable ∧
      split (m.withRoute "get" none "Order()").stubName = ("com..acme.", "Stub") ∧
      (m.withRoute "get" none "Order()").stubBaseFullName = "com..acme..StubBase" := by
  intro m
  have hm : (m.withRoute "get" none "Order()").Reachable :=
    .route (.controller (.controller .empty _ _) _ _) _ _ _
  exact ⟨hm, (derived_names_agree.1 _ hm).1, rfl⟩

end EndpointModel

end EndpointStubs
