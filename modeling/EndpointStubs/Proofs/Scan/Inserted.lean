import EndpointStubs.Proofs.Scan.ClosedForm

/-!
# Markers that add nothing

A marker that is neither one of a controller nor of a GET route adds nothing to a model by itself,
and most of the time it may be put anywhere. But a POST marker in front of the first route marker of
a GET route turns the declaration into a POST route. Then the facts of the GET route are missing,
which is only seen in the model if they were not given by other routes anyway.

    scan (… d with m put in …) = scan (… d …) ↔ m does not shadow, or d is Covered
-/

namespace EndpointStubs

/-- The kinds that add nothing. -/
def MarkerKind.isSilent : MarkerKind → Bool
  | postMapping | responseBody | requestBody | requestParam => true
  | controller | restController | getMapping => false

/-- In a list of markers, what is put between two parts hides the GET route of the second part. -/
structure Shadows (m : Marker) (before after : List Marker) : Prop where
  post : m.kind = .postMapping
  no_controller : ∀ x ∈ before ++ after, x.kind.isController = false
  no_route : ∀ x ∈ before, x.isRoute = false
  get : ∃ g, after.find? Marker.isRoute = some g ∧ g.kind = .getMapping

/-- The GET facts that `d` gives in the middle are given without it, too. -/
structure Covered (d : Declaration) (left right : List Declaration) : Prop where
  names : getRoutes right ≠ [] ∨ ∃ g, (getRoutes left).getLast? = some g ∧
    Text.capitalize g.simpleName = Text.capitalize d.simpleName ∧
    ResponseType.ofDeclared (g.declaredType.getD "") =
      ResponseType.ofDeclared (d.declaredType.getD "")
  path : d.routePath? = none ∨ (getRoutes right).filterMap Declaration.routePath? ≠ [] ∨
    ((getRoutes left).filterMap Declaration.routePath?).getLast? = d.routePath?

/-! ## One declaration -/

section

variable {q : Marker → Bool} {m : Marker} {before after : List Marker}

theorem find?_insert_of_neg (h : q m = false) :
    (before ++ m :: after).find? q = (before ++ after).find? q := by
  rw [List.find?_append, List.find?_append, List.find?_cons_of_neg (by simp [h])]

theorem find?_insert_of_mem (h : ∃ x ∈ before, q x = true) :
    (before ++ m :: after).find? q = (before ++ after).find? q := by
  obtain ⟨y, hy⟩ := Option.isSome_iff_exists.1 (List.find?_isSome.2 h)
  rw [List.find?_append, List.find?_append, hy]
  rfl

theorem find?_append_of_forall (h : ∀ x ∈ before, q x = false) (ms : List Marker) :
    (before ++ ms).find? q = ms.find? q := by
  rw [List.find?_append, List.find?_eq_none.2 fun x hx => by simp [h x hx]]
  rfl

end

theorem MarkerKind.isController_of_isSilent {k : MarkerKind} (h : k.isSilent = true) :
    k.isController = false := by
  cases k with
  | controller | restController | getMapping => cases h
  | _ => rfl

/-- The only silent kind that is a route is that of POST. -/
theorem Marker.kind_of_isSilent {m : Marker} (h : m.kind.isSilent = true)
    (hr : m.isRoute = true) : m.kind = .postMapping := by
  simp only [isRoute, Bool.or_eq_true, decide_eq_true_eq] at hr
  exact hr.resolve_left fun hk => by rw [hk] at h; cases h

namespace Declaration

/-- What a declaration adds is told by its names, by what it counts as and by its paths. -/
theorem addTo_congr {d d' : Declaration} (hname : d'.name = d.name)
    (htype : d'.declaredType = d.declaredType) (hc : d'.isController = d.isController)
    (hcp : d'.controllerPath? = d.controllerPath?) (hg : d'.isGetRoute = d.isGetRoute)
    (hrp : d.isGetRoute = true → d'.routePath? = d.routePath?) (e : EndpointModel) :
    d'.addTo e = d.addTo e := by
  by_cases hd : d.isController = true
  · rw [addTo_of_isController hd, addTo_of_isController (hc.trans hd), hname, hcp]
  · rw [Bool.not_eq_true] at hd
    by_cases hget : d.isGetRoute = true
    · rw [addTo_of_isGetRoute hget, addTo_of_isGetRoute (hg.trans hget), simpleName, hname, htype,
        hrp hget, simpleName]
    · rw [Bool.not_eq_true] at hget
      rw [addTo_of_neither hd hget, addTo_of_neither (hc.trans hd) (hg.trans hget)]

variable {d : Declaration} {m : Marker} {before after : List Marker}

def withMarkers (d : Declaration) (ms : List Marker) : Declaration := { d with markers := ms }

/-- A silent marker makes no controller, wherever it is put. -/
theorem isController_insert (hm : m.kind.isSilent = true) :
    (d.withMarkers (before ++ m :: after)).isController =
      (d.withMarkers (before ++ after)).isController := by
  simp [isController, withMarkers, MarkerKind.isController_of_isSilent hm]

/-- A silent marker leaves the route as it is, unless it shadows. -/
theorem isGetRoute_insert (hm : m.kind.isSilent = true) (hs : ¬Shadows m before after) :
    (d.withMarkers (before ++ m :: after)).isGetRoute =
        (d.withMarkers (before ++ after)).isGetRoute ∧
      ((d.withMarkers (before ++ after)).isGetRoute = true →
        (d.withMarkers (before ++ m :: after)).routePath? =
          (d.withMarkers (before ++ after)).routePath?) := by
  have hc : (d.withMarkers (before ++ m :: after)).isController =
      (d.withMarkers (before ++ after)).isController := isController_insert hm
  by_cases hfind : (before ++ m :: after).find? Marker.isRoute =
      (before ++ after).find? Marker.isRoute
  · constructor
    · rw [isGetRoute, isGetRoute, hc, withMarkers, withMarkers, hfind]
    · intro _
      rw [routePath?, routePath?, withMarkers, withMarkers, hfind]
  · -- The marker is a route, and there is none before it.
    have hroute : m.isRoute = true := by
      rw [← Bool.not_eq_false]
      exact fun h => hfind (find?_insert_of_neg h)
    have hbefore : ∀ x ∈ before, x.isRoute = false := by
      intro x hx
      rw [← Bool.not_eq_true]
      exact fun h => hfind (find?_insert_of_mem ⟨x, hx, h⟩)
    have hpost := Marker.kind_of_isSilent hm hroute
    have hnew : (d.withMarkers (before ++ m :: after)).isGetRoute = false := by
      have hfirst : (before ++ m :: after).find? Marker.isRoute = some m := by
        rw [find?_append_of_forall hbefore, List.find?_cons_of_pos hroute]
      simp [isGetRoute, withMarkers, hfirst, hpost]
    have hold : (d.withMarkers (before ++ after)).isGetRoute = false := by
      rw [← Bool.not_eq_true]
      intro hget
      simp only [isGetRoute, withMarkers, Bool.and_eq_true, Bool.not_eq_true', Option.any_eq_true,
        decide_eq_true_eq, isController, find?_append_of_forall hbefore] at hget
      refine hs ⟨hpost, fun x hx => ?_, hbefore, hget.2⟩
      simpa using List.any_eq_false.1 hget.1 x hx
    rw [hnew, hold]
    refine ⟨rfl, fun h => ?_⟩
    cases h

/-- A silent marker that does not shadow leaves what the declaration adds. -/
theorem addTo_insert (hm : m.kind.isSilent = true) (hs : ¬Shadows m before after)
    (e : EndpointModel) :
    (d.withMarkers (before ++ m :: after)).addTo e =
      (d.withMarkers (before ++ after)).addTo e := by
  obtain ⟨hget, hpath⟩ := isGetRoute_insert (d := d) hm hs
  refine addTo_congr ?_ ?_ (isController_insert hm) ?_ hget hpath e
  · rfl
  · rfl
  rw [controllerPath?, controllerPath?, withMarkers, withMarkers,
    find?_insert_of_neg (MarkerKind.isController_of_isSilent hm)]

/-- A declaration whose GET route is shadowed is a GET route, and adds nothing any more. -/
theorem of_shadows (hm : m.kind.isSilent = true) (hs : Shadows m before after) :
    (d.withMarkers (before ++ after)).isController = false ∧
      (d.withMarkers (before ++ after)).isGetRoute = true ∧
      ∀ e, (d.withMarkers (before ++ m :: after)).addTo e = e := by
  have hroute : m.isRoute = true := by simp [Marker.isRoute, hs.post]
  have hfirst : (before ++ m :: after).find? Marker.isRoute = some m := by
    rw [find?_append_of_forall hs.no_route, List.find?_cons_of_pos hroute]
  have hc : (d.withMarkers (before ++ after)).isController = false := by
    rw [isController, List.any_eq_false]
    exact fun x hx => by simp [hs.no_controller x hx]
  refine ⟨hc, ?_, fun e => addTo_of_neither ((isController_insert hm).trans hc) ?_ e⟩
  · obtain ⟨g, hg, hk⟩ := hs.get
    rw [isGetRoute, hc]
    simp [withMarkers, find?_append_of_forall hs.no_route, hg, hk]
  · simp [isGetRoute, withMarkers, hfirst, hs.post]

end Declaration

/-! ## All declarations -/

/-- A declaration in the middle changes the model that the later ones start from. -/
theorem scan_append_cons (left : List Declaration) (d : Declaration) (right : List Declaration) :
    scan (left ++ d :: right) = right.foldl (fun e x => x.addTo e) (d.addTo (scan left)) := by
  rw [scan, List.foldl_append, List.foldl_cons]
  rfl

/-- The last of a list with an element left out. -/
theorem EndpointModel.ofLast_leave_out_iff (cs gs hs : List Declaration) (d : Declaration) :
    ofLast cs (gs ++ hs) = ofLast cs (gs ++ d :: hs) ↔
      (hs ≠ [] ∨ ∃ g, gs.getLast? = some g ∧
        Text.capitalize g.simpleName = Text.capitalize d.simpleName ∧
        ResponseType.ofDeclared (g.declaredType.getD "") =
          ResponseType.ofDeclared (d.declaredType.getD "")) ∧
      (d.routePath? = none ∨ hs.filterMap Declaration.routePath? ≠ [] ∨
        (gs.filterMap Declaration.routePath?).getLast? = d.routePath?) := by
  simp only [ofLast, mk.injEq, true_and, ← and_assoc]
  refine and_congr ?_ ?_
  · cases hs with
    | nil =>
      rw [List.append_nil, List.getLast?_concat]
      cases gs.getLast? <;> simp [Declaration.simpleName]
    | cons h hs => simp
  · rw [List.filterMap_append, List.filterMap_append, List.filterMap_cons]
    cases hd : d.routePath? with
    | none => simp
    | some path =>
      cases hs.filterMap Declaration.routePath? with
      | nil => simp
      | cons h hs => simp

/-- A GET route may be left out just if it is covered. -/
theorem scan_leave_out_iff {d : Declaration} (hc : d.isController = false)
    (hg : d.isGetRoute = true) (left right : List Declaration) :
    scan (left ++ right) = scan (left ++ d :: right) ↔ Covered d left right := by
  have hcs : controllers (left ++ d :: right) = controllers (left ++ right) := by
    simp [controllers, hc]
  have hgs : getRoutes (left ++ d :: right) = getRoutes left ++ d :: getRoutes right := by
    simp [getRoutes, hg]
  have hgs' : getRoutes (left ++ right) = getRoutes left ++ getRoutes right := by
    simp [getRoutes]
  rw [scan_eq_of_lists, scan_eq_of_lists, hcs, hgs, hgs', EndpointModel.ofLast_leave_out_iff]
  exact ⟨fun ⟨hnames, hpath⟩ => ⟨hnames, hpath⟩, fun h => ⟨h.names, h.path⟩⟩

/-- **Silent markers.** Putting a silent marker somewhere leaves the model as it is, unless it shadows
a GET route that is not covered. -/
theorem scan_insert_marker {m : Marker} (hm : m.kind.isSilent = true) (d : Declaration)
    (before after : List Marker) (left right : List Declaration) :
    scan (left ++ { d with markers := before ++ m :: after } :: right) =
        scan (left ++ { d with markers := before ++ after } :: right) ↔
      (Shadows m before after → Covered { d with markers := before ++ after } left right) := by
  change scan (left ++ d.withMarkers (before ++ m :: after) :: right) =
    scan (left ++ d.withMarkers (before ++ after) :: right) ↔
      (Shadows m before after → Covered (d.withMarkers (before ++ after)) left right)
  by_cases hs : Shadows m before after
  · obtain ⟨hc, hg, hnothing⟩ := Declaration.of_shadows (d := d) hm hs
    have hscan : scan (left ++ d.withMarkers (before ++ m :: after) :: right) =
        scan (left ++ right) := by
      rw [scan_append_cons, hnothing, scan, scan, List.foldl_append]
    rw [hscan, scan_leave_out_iff hc hg]
    exact ⟨fun h _ => h, fun h => h hs⟩
  · rw [scan_append_cons, scan_append_cons, Declaration.addTo_insert hm hs]
    exact iff_of_true rfl fun h => absurd h hs

/-- A GET route with a path comes later, so that the first one may be shadowed. -/
theorem scan_insert_post_covered :
    let post : Marker := { kind := .postMapping, value := ["/x"] }
    let get : Marker := { kind := .getMapping, path := ["/y"] }
    let e : Declaration := { name := "a.B.two", markers := [get] }
    post.kind.isSilent = true ∧ Shadows post [] [get] ∧
      scan [{ name := "a.B.one", markers := [post, get] }, e] =
        scan [{ name := "a.B.one", markers := [get] }, e] := by
  intro post get e
  refine ⟨rfl, ⟨rfl, by decide, by decide, get, rfl, rfl⟩, ?_⟩
  have hcovered : Covered { name := "a.B.one", markers := [get] } [] [e] :=
    ⟨.inl (by decide), .inr (.inl (by decide))⟩
  exact (scan_insert_marker (m := post) rfl { name := "a.B.one" } [] [get] [] [e]).2
    fun _ => hcovered

/-- A POST marker in front of the only GET marker takes the route away. -/
theorem scan_insert_post_shadows :
    let post : Marker := { kind := .postMapping }
    let get : Marker := { kind := .getMapping }
    post.kind.isSilent = true ∧
      scan [{ name := "a.B.one", markers := [post, get] }] ≠
        scan [{ name := "a.B.one", markers := [get] }] := by
  decide +kernel

end EndpointStubs
