import EndpointStubs.Proofs.Model.Names
import EndpointStubs.Proofs.Scan.ClosedForm
import EndpointStubs.Proofs.Text.Case

/-!
# Blank names

A package is reported as missing if its text is empty, but a controller and a method only if no
marker has given one. A name that is empty, or ends in a dot, gives an empty simple name: the class
of the stub is then called like its suffix, or the method has no name at all, and nothing is
reported. This is the only way in which the report and the texts disagree, and in which a strict
check passes a blank name.

    ("method_name" ∈ m.missingFields ↔ m.methodName = "") ↔ ¬LastNameless (getRoutes ds)
                                                                              for m = scan ds
-/

namespace EndpointStubs

/-! ## Names without a simple name -/

namespace Declaration

/-- Nothing stands where the simple name would stand. -/
def Nameless (d : Declaration) : Prop := d.name = "" ∨ ∃ package, d.name = package ++ "."

theorem simpleName_eq_empty_iff {d : Declaration} : d.simpleName = "" ↔ d.Nameless :=
  QualifiedName.simple_eq_empty_iff d.name

end Declaration

/-- The last of the declarations has no simple name. -/
def LastNameless (ds : List Declaration) : Prop := ∃ d, ds.getLast? = some d ∧ d.Nameless

theorem LastNameless.ne_nil {ds : List Declaration} (h : LastNameless ds) : ds ≠ [] := by
  obtain ⟨d, hd, -⟩ := h
  rintro rfl
  cases hd

/-- The name that the last declaration gives is blank exactly if there is none, or it has no simple
name. -/
theorem name_of_last_eq_empty_iff {f : Declaration → String} (hf : ∀ d, f d = "" ↔ d.Nameless)
    (ds : List Declaration) :
    (ds.getLast?.map f).getD "" = "" ↔ ds = [] ∨ LastNameless ds := by
  cases hlast : ds.getLast? with
  | none =>
    have hnil : ds = [] := List.getLast?_eq_none_iff.1 hlast
    exact iff_of_true rfl (.inl hnil)
  | some d =>
    have hne : ds ≠ [] := by
      rintro rfl
      cases hlast
    show f d = "" ↔ _
    rw [hf d]
    constructor
    · intro hd
      exact .inr ⟨d, hlast, hd⟩
    · rintro (hnil | ⟨other, hother, hnameless⟩)
      · exact absurd hnil hne
      · obtain rfl : d = other := Option.some.inj (hlast.symm.trans hother)
        exact hnameless

/-- Being blank is being given by nothing, unless the last declaration has no simple name. -/
theorem eq_nil_iff_blank_iff (ds : List Declaration) :
    (ds = [] ↔ ds = [] ∨ LastNameless ds) ↔ ¬LastNameless ds := by
  constructor
  · intro h hlast
    exact hlast.ne_nil (h.2 (.inr hlast))
  · intro h
    constructor
    · exact .inl
    · rintro (hnil | hlast)
      · exact hnil
      · exact absurd hlast h

/-! ## What is reported -/

namespace EndpointModel

section
variable (m : EndpointModel)

theorem package_name_mem_missingFields :
    "package_name" ∈ m.missingFields ↔ m.packageName = "" := by
  simp [missingFields]

theorem stub_class_name_mem_missingFields :
    "stub_class_name" ∈ m.missingFields ↔ m.controller? = none := by
  simp [missingFields]

theorem method_name_mem_missingFields : "method_name" ∈ m.missingFields ↔ m.method? = none := by
  simp [missingFields]

/-- Nothing is missing if there is a package, a controller and a method. -/
theorem missingFields_eq_nil_iff :
    m.missingFields = [] ↔ m.packageName ≠ "" ∧ m.controller? ≠ none ∧ m.method? ≠ none := by
  simp [missingFields]

theorem check_strict_eq_ok_iff : m.check .strict = .ok () ↔ m.missingFields = [] := by
  simp [check]

theorem stubClassName_eq_suffix_iff :
    m.stubClassName = stubSuffix ↔ m.controller?.getD "" = "" := by
  unfold stubClassName
  exact String.append_eq_right_iff

end

/-! ## What is blank -/

section
variable (ds : List Declaration)

theorem controller?_scan :
    (scan ds).controller? = (controllers ds).getLast?.map Declaration.simpleName := by
  rw [scan_eq_of_lists]
  rfl

theorem method?_scan :
    (scan ds).method? =
      (getRoutes ds).getLast?.map fun d => Text.capitalize d.simpleName := by
  rw [scan_eq_of_lists]
  rfl

theorem capitalize_simpleName_eq_empty_iff (d : Declaration) :
    Text.capitalize d.simpleName = "" ↔ d.Nameless :=
  Text.capitalize_eq_empty_iff.trans Declaration.simpleName_eq_empty_iff

theorem controller?_scan_eq_none_iff : (scan ds).controller? = none ↔ controllers ds = [] := by
  rw [controller?_scan, Option.map_eq_none_iff, List.getLast?_eq_none_iff]

theorem method?_scan_eq_none_iff : (scan ds).method? = none ↔ getRoutes ds = [] := by
  rw [method?_scan, Option.map_eq_none_iff, List.getLast?_eq_none_iff]

/-- Only a controller gives a package. -/
theorem controllers_ne_nil_of_packageName (h : (scan ds).packageName ≠ "") :
    controllers ds ≠ [] := by
  intro hnil
  rw [scan_eq_of_lists, hnil] at h
  exact h rfl

/-- The strict policy asks for a package and a GET route, and for no more. -/
theorem check_strict_scan_eq_ok_iff :
    (scan ds).check .strict = .ok () ↔ (scan ds).packageName ≠ "" ∧ getRoutes ds ≠ [] := by
  rw [check_strict_eq_ok_iff, missingFields_eq_nil_iff]
  simp only [ne_eq, controller?_scan_eq_none_iff, method?_scan_eq_none_iff]
  constructor
  · rintro ⟨hpackage, -, hroutes⟩
    exact ⟨hpackage, hroutes⟩
  · rintro ⟨hpackage, hroutes⟩
    exact ⟨hpackage, controllers_ne_nil_of_packageName ds hpackage, hroutes⟩

end

end EndpointModel

open EndpointModel in
/-- **Blank names.** A missing package is one without text. That a missing class name is a bare
suffix, and a missing method name one without text, holds exactly if the last controller, or the
last handler, has a simple name. What a strict check accepts has a package and a handler, and blank
names exactly if these have none. -/
theorem missing_iff_blank (ds : List Declaration) :
    ("package_name" ∈ (scan ds).missingFields ↔ (scan ds).packageName = "") ∧
    (("stub_class_name" ∈ (scan ds).missingFields ↔ (scan ds).stubClassName = "Stub") ↔
      ¬LastNameless (controllers ds)) ∧
    (("method_name" ∈ (scan ds).missingFields ↔ (scan ds).methodName = "") ↔
      ¬LastNameless (getRoutes ds)) ∧
    ((scan ds).check .strict = .ok () ↔ (scan ds).packageName ≠ "" ∧ getRoutes ds ≠ []) ∧
    ((scan ds).check .strict = .ok () →
      ((scan ds).stubClassName ≠ "Stub" ↔ ¬LastNameless (controllers ds)) ∧
      ((scan ds).methodName ≠ "" ↔ ¬LastNameless (getRoutes ds))) := by
  have hclass : (scan ds).stubClassName = "Stub" ↔
      controllers ds = [] ∨ LastNameless (controllers ds) := by
    rw [show "Stub" = stubSuffix from rfl, stubClassName_eq_suffix_iff, controller?_scan]
    exact name_of_last_eq_empty_iff (fun _ => Declaration.simpleName_eq_empty_iff) _
  have hmethod : (scan ds).methodName = "" ↔ getRoutes ds = [] ∨ LastNameless (getRoutes ds) := by
    rw [methodName, method?_scan]
    exact name_of_last_eq_empty_iff capitalize_simpleName_eq_empty_iff _
  refine ⟨package_name_mem_missingFields _, ?_, ?_, check_strict_scan_eq_ok_iff ds, ?_⟩
  · rw [stub_class_name_mem_missingFields, controller?_scan_eq_none_iff, hclass]
    exact eq_nil_iff_blank_iff _
  · rw [method_name_mem_missingFields, method?_scan_eq_none_iff, hmethod]
    exact eq_nil_iff_blank_iff _
  · intro hcheck
    obtain ⟨hpackage, hroutes⟩ := (check_strict_scan_eq_ok_iff ds).1 hcheck
    have hcontrollers := controllers_ne_nil_of_packageName ds hpackage
    constructor
    · simp [hclass, hcontrollers]
    · simp [hmethod, hroutes]

/-- A controller whose name ends in a dot, and a handler: complete, but its stub has no name of its
own. -/
theorem missing_iff_blank_dotted :
    let ds : List Declaration :=
      [{ name := "com.acme.", markers := [{ kind := .restController }] },
       { name := "com.acme.get", markers := [{ kind := .getMapping }] }]
    (scan ds).check .strict = .ok () ∧
      ((scan ds).stubClassName ≠ "Stub" ↔ ¬LastNameless (controllers ds)) ∧
      ((scan ds).methodName ≠ "" ↔ ¬LastNameless (getRoutes ds)) := by
  intro ds
  have hcheck : (scan ds).check .strict = .ok () := by decide +kernel
  exact ⟨hcheck, (missing_iff_blank ds).2.2.2.2 hcheck⟩

/-- A strict check accepts a controller and a handler without simple names, and nothing is
missing. -/
theorem strict_check_accepts_blank :
    let ds : List Declaration :=
      [{ name := "com.acme.", markers := [{ kind := .restController }] },
       { name := "com.acme.", markers := [{ kind := .getMapping }], declaredType := some "X" }]
    (scan ds).check .strict = .ok () ∧ (scan ds).missingFields = [] ∧
      (scan ds).stubClassName = "Stub" ∧ (scan ds).methodName = "" := by
  intro ds
  have hmissing : (scan ds).missingFields = [] := by decide +kernel
  have hclass : (scan ds).stubClassName = "Stub" := by decide +kernel
  have hmethod : (scan ds).methodName = "" := by decide +kernel
  exact ⟨(EndpointModel.check_strict_eq_ok_iff _).2 hmissing, hmissing, hclass, hmethod⟩

end EndpointStubs
