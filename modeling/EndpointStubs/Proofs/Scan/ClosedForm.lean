import Mathlib.Data.List.Induction
import EndpointStubs.Scan

/-!
# The scanned model in closed form

A model is read off two lists: the controllers of the declarations, and the GET routes among the
others. The last of a list gives the names; a resource is given by the last one that has a path.
So it does not matter how the two lists are mixed, nor what else is declared.

    scan ds = ofLast (controllers ds) (getRoutes ds)                        (scan_eq_ofLast)
-/

namespace EndpointStubs

def Marker.isRoute (m : Marker) : Bool := m.kind = .getMapping || m.kind = .postMapping

namespace Declaration

/-- Some marker makes it a controller. -/
def isController (d : Declaration) : Bool := d.markers.any fun m => m.kind.isController

/-- No controller, and the first of its route markers is one of a GET route. -/
def isGetRoute (d : Declaration) : Bool :=
  !d.isController && (d.markers.find? Marker.isRoute).any fun m => m.kind = .getMapping

def controllerPath? (d : Declaration) : Option String :=
  (d.markers.find? fun m => m.kind.isController).bind Marker.firstPath?

def routePath? (d : Declaration) : Option String :=
  (d.markers.find? Marker.isRoute).bind Marker.firstPath?

end Declaration

def controllers (ds : List Declaration) : List Declaration := ds.filter Declaration.isController

/-- The GET routes that are no controllers, in order. -/
def getRoutes (ds : List Declaration) : List Declaration := ds.filter Declaration.isGetRoute

/-- The model of a list of controllers and a list of GET routes. -/
def EndpointModel.ofLast (cs gs : List Declaration) : EndpointModel where
  package? := cs.getLast?.map fun d => (QualifiedName.split d.name).1
  controller? := cs.getLast?.map fun d => (QualifiedName.split d.name).2
  method? := gs.getLast?.map fun d => Text.capitalize (QualifiedName.split d.name).2
  response? := gs.getLast?.map fun d => ResponseType.ofDeclared (d.declaredType.getD "")
  rootResource? := (cs.filterMap Declaration.controllerPath?).getLast?
  subResource? := (gs.filterMap Declaration.routePath?).getLast?

/-! ## One declaration -/

theorem MarkerKind.verb?_isSome (k : MarkerKind) :
    k.verb?.isSome = (k = .getMapping || k = .postMapping) := by
  cases k <;> rfl

namespace Declaration

variable {d : Declaration}

theorem firstRoute?_eq (d : Declaration) :
    d.firstRoute? = (d.markers.find? Marker.isRoute).bind
      fun m => m.kind.verb?.map fun v => (v, m) := by
  unfold firstRoute?
  induction d.markers with
  | nil => rfl
  | cons m ms ih =>
    have hm : m.isRoute = m.kind.verb?.isSome := (MarkerKind.verb?_isSome m.kind).symm
    rw [List.findSome?_cons, List.find?_cons, ih, hm]
    cases h : m.kind.verb? with
    | none => simp
    | some v => simp [h]

/-- A controller gives its name and its path to the model. -/
theorem addTo_of_isController (h : d.isController = true) (m : EndpointModel) :
    d.addTo m = m.withController d.name d.controllerPath? := by
  unfold addTo classify controllerPath?
  cases hf : d.markers.find? fun m => m.kind.isController with
  | none =>
    rw [List.find?_eq_none] at hf
    obtain ⟨x, hx, hk⟩ := List.any_eq_true.1 h
    exact absurd hk (hf x hx)
  | some x => rfl

theorem classify_of_not_isController (h : d.isController = false) :
    d.classify = match d.firstRoute? with
      | some (v, m) => .route v m
      | none => .unrecognized := by
  have hf : (d.markers.find? fun m => m.kind.isController) = none := by
    rw [List.find?_eq_none]
    simpa [isController] using h
  unfold classify
  cases hr : d.firstRoute? with
  | none => simp only [hf]
  | some x => simp only [hf]

/-- A GET route that is no controller gives its name, its path and its type to the model. -/
theorem addTo_of_isGetRoute (h : d.isGetRoute = true) (m : EndpointModel) :
    d.addTo m = m.withRoute d.simpleName d.routePath? (d.declaredType.getD "") := by
  unfold isGetRoute at h
  simp only [Bool.and_eq_true, Bool.not_eq_true', Option.any_eq_true, decide_eq_true_eq] at h
  obtain ⟨hc, x, hx, hk⟩ := h
  unfold addTo routePath?
  rw [classify_of_not_isController hc, firstRoute?_eq, hx]
  simp [hk, MarkerKind.verb?]

/-- A POST route or a declaration without route marker adds nothing. -/
theorem addTo_of_neither (hc : d.isController = false) (hg : d.isGetRoute = false)
    (m : EndpointModel) : d.addTo m = m := by
  unfold addTo
  rw [classify_of_not_isController hc, firstRoute?_eq]
  cases hf : d.markers.find? Marker.isRoute with
  | none => rfl
  | some x =>
    have hor : x.isRoute = true := List.find?_some hf
    have hk : x.kind = .postMapping := by
      have hne : x.kind ≠ .getMapping := by
        intro hk
        simp [isGetRoute, hc, hf, hk] at hg
      simpa [Marker.isRoute, hne] using hor
    simp [hk, MarkerKind.verb?]

end Declaration

/-! ## All declarations -/

namespace EndpointModel

/-- One more controller replaces what the last one said. -/
theorem ofLast_append_controller (cs gs : List Declaration) (d : Declaration) :
    ofLast (cs ++ [d]) gs = (ofLast cs gs).withController d.name d.controllerPath? := by
  simp only [ofLast, withController, List.getLast?_append, List.filterMap_append,
    List.getLast?_singleton]
  cases h : d.controllerPath? with
  | none => simp [h]
  | some path => simp [h]

/-- One more GET route replaces what the last one said. -/
theorem ofLast_append_route (cs gs : List Declaration) (d : Declaration) :
    ofLast cs (gs ++ [d]) =
      (ofLast cs gs).withRoute d.simpleName d.routePath? (d.declaredType.getD "") := by
  simp only [ofLast, withRoute, List.getLast?_append, List.filterMap_append,
    List.getLast?_singleton]
  cases h : d.routePath? with
  | none => simp [h, Declaration.simpleName]
  | some path => simp [h, Declaration.simpleName]

end EndpointModel

theorem scan_append_singleton (ds : List Declaration) (d : Declaration) :
    scan (ds ++ [d]) = d.addTo (scan ds) := by
  simp [scan, List.foldl_append]

-- The induction is from the end, where the last writer of each field stands.
theorem scan_eq_of_lists (ds : List Declaration) :
    scan ds = EndpointModel.ofLast (controllers ds) (getRoutes ds) := by
  induction ds using List.reverseRecOn with
  | nil => rfl
  | append_singleton ds d ih =>
    unfold controllers getRoutes at ih ⊢
    rw [scan_append_singleton, List.filter_append, List.filter_append, ih]
    by_cases hc : d.isController = true
    · have hg : d.isGetRoute = false := by simp [Declaration.isGetRoute, hc]
      rw [Declaration.addTo_of_isController hc, ← EndpointModel.ofLast_append_controller]
      simp [hc, hg]
    · rw [Bool.not_eq_true] at hc
      by_cases hg : d.isGetRoute = true
      · rw [Declaration.addTo_of_isGetRoute hg, ← EndpointModel.ofLast_append_route]
        simp [hc, hg]
      · rw [Bool.not_eq_true] at hg
        rw [Declaration.addTo_of_neither hc hg]
        simp [hc, hg]

/-- The model is the closed form of the two lists, however they are mixed. -/
theorem scan_eq_ofLast (ds : List Declaration) :
    scan ds = EndpointModel.ofLast (controllers ds) (getRoutes ds) ∧
      ∀ es, controllers es = controllers ds → getRoutes es = getRoutes ds → scan es = scan ds := by
  refine ⟨scan_eq_of_lists ds, fun es hc hg => ?_⟩
  rw [scan_eq_of_lists es, scan_eq_of_lists ds, hc, hg]

/-- A controller without path and a GET route, around a POST route or not. -/
theorem scan_mixed :
    let c : Declaration := { name := "a.B", markers := [{ kind := .restController }] }
    let g : Declaration := { name := "a.B.one", markers := [{ kind := .getMapping }] }
    let p : Declaration :=
      { name := "a.B.two", markers := [{ kind := .postMapping, path := ["/x"] }] }
    controllers [g, p, c] = controllers [c, g] ∧ getRoutes [g, p, c] = getRoutes [c, g] ∧
      scan [g, p, c] = scan [c, g] :=
  ⟨by decide, by decide, (scan_eq_ofLast _).2 _ (by decide) (by decide)⟩

end EndpointStubs
