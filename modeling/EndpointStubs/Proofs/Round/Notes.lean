import EndpointStubs.Proofs.Round.Concatenated
import EndpointStubs.Proofs.Round.Kept
import EndpointStubs.Proofs.Scan.ClosedForm

/-!
# The notes of a round

A round without markers leaves no note. Any other leaves one for each declaration, in order, and
one that shows the model, before it is known whether the model passes and its artifacts can be
written. Nothing that happens afterwards is a note, so the notes are the same however the round
ends.

    (p.processRound r).runOn w adds the notes  r.declarations.map note ++ [writingNote (scan …)]
    d.NotedAs text ↔ text = d.note
-/

namespace EndpointStubs

/-! ## Notes among events -/

def Event.noteText? (e : Event) : Option String :=
  if e = Event.note e.level e.message then some e.message else none

@[simp] theorem Event.noteText?_note (level : Event.Level) (text : String) :
    (Event.note level text).noteText? = some text := if_pos rfl

/-- What another part of the program reports is no note. -/
theorem Event.noteText?_eq_none {e : Event} (h : e.target ≠ "stubgen::diagnostics") :
    e.noteText? = none := by
  unfold noteText?
  rw [if_neg]
  intro he
  apply h
  rw [he]
  rfl

/-- The notes so far, in order. -/
def World.notes (w : World) : List String := w.events.filterMap Event.noteText?

/-! ## Sessions without notes -/

namespace Session

variable {ε ε' α β : Type}

/-- The session reports no note. -/
def Quiet (s : Session ε α) : Prop := ∀ notes, Preserves (fun w => w.notes = notes) s

theorem quiet_pure (a : α) : Quiet (pure a : Session ε α) := fun _ => preserves_pure a

theorem quiet_ofExcept (cause : ε' → ε) (x : Except ε' α) : Quiet (ofExcept cause x) :=
  fun _ => preserves_ofExcept cause x

theorem quiet_report {e : Event} (h : e.target ≠ "stubgen::diagnostics") :
    Quiet (report e : Session ε Unit) := by
  intro notes w hw
  rw [runOn_report, ← hw]
  simp [World.notes, Event.noteText?_eq_none h]

variable {s : Session ε α}

theorem Quiet.bind {f : α → Session ε β} (hs : Quiet s) (hf : ∀ a, Quiet (f a)) :
    Quiet (s >>= f) :=
  fun notes => (hs notes).bind fun a => hf a notes

theorem quiet_mapM {f : α → Session ε β} (hf : ∀ a, Quiet (f a)) (as : List α) :
    Quiet (as.mapM f) :=
  fun notes => preserves_mapM (fun a => hf a notes) as

theorem Quiet.notes_runOn (hs : Quiet s) (w : World) : (s.runOn w).2.notes = w.notes :=
  hs w.notes w rfl

end Session

open Session (Quiet)

/-- What is made and reported for an artifact is no note. -/
theorem Processor.quiet_writeArtifact (p : Processor) (m : EndpointModel) (kind : ArtifactKind) :
    Quiet (p.writeArtifact m kind) := by
  intro notes
  -- The notes do not depend on the tree.
  refine p.preserves_writeArtifact (fun hw _ => hw) (fun hw _ => hw) (fun {w e} hw he => ?_) m kind
  exact Session.quiet_report (ε := Empty) he notes w hw

/-! ## The note of a declaration -/

namespace Declaration

/-- What the note of a declaration says: the marker that makes it a controller or a route, or all
of its markers if there is none. -/
inductive NotedAs (d : Declaration) : String → Prop
  | controller {before after : List Marker} {m : Marker} : d.markers = before ++ m :: after →
      (∀ x ∈ before, x.kind.isController = false) → m.kind.isController = true →
      NotedAs d ("Processing " ++ m.kind.name ++ " annotation on " ++ d.name)
  | getRoute {before after : List Marker} {m : Marker} :
      (∀ x ∈ d.markers, x.kind.isController = false) → d.markers = before ++ m :: after →
      (∀ x ∈ before, x.isRoute = false) → m.kind = .getMapping →
      NotedAs d ("Processing get_mapping annotation on " ++ d.name)
  | postRoute {before after : List Marker} {m : Marker} :
      (∀ x ∈ d.markers, x.kind.isController = false) → d.markers = before ++ m :: after →
      (∀ x ∈ before, x.isRoute = false) → m.kind = .postMapping →
      NotedAs d ("Unknown annotation post_mapping on " ++ d.name)
  | unrecognized : (∀ x ∈ d.markers, x.kind.isController = false ∧ x.isRoute = false) →
      NotedAs d ("Unknown annotation " ++
        Text.joinStrings ", " (d.markers.map fun m => m.kind.name) ++ " on " ++ d.name)

variable {d : Declaration} {m : Marker}

/-- The note of a controller names the first marker that makes it one. -/
theorem note_of_controller (h : (d.markers.find? fun m => m.kind.isController) = some m) :
    d.note = "Processing " ++ m.kind.name ++ " annotation on " ++ d.name := by
  unfold note classify
  simp only [h]

/-- A declaration that is no controller is noted after its first route marker. -/
theorem note_of_no_controller (h : d.isController = false) :
    d.note = match d.markers.find? Marker.isRoute with
      | some m =>
        if m.kind = .getMapping then "Processing " ++ m.kind.name ++ " annotation on " ++ d.name
        else "Unknown annotation " ++ m.kind.name ++ " on " ++ d.name
      | none => "Unknown annotation " ++
          Text.joinStrings ", " (d.markers.map fun m => m.kind.name) ++ " on " ++ d.name := by
  unfold note
  rw [classify_of_not_isController h, firstRoute?_eq]
  cases hf : d.markers.find? Marker.isRoute with
  | none => rfl
  | some m =>
    have hroute : m.isRoute = true := List.find?_some hf
    simp only [Marker.isRoute, Bool.or_eq_true, decide_eq_true_eq] at hroute
    rcases hroute with hk | hk
    · simp [hk, MarkerKind.verb?]
    · simp [hk, MarkerKind.verb?]

theorem isController_eq_false_iff :
    d.isController = false ↔ ∀ x ∈ d.markers, x.kind.isController = false := by
  simp [isController]

theorem notedAs_note (d : Declaration) : d.NotedAs d.note := by
  cases hc : d.markers.find? fun m => m.kind.isController with
  | some m =>
    obtain ⟨hm, before, after, hsplit, hbefore⟩ := List.find?_eq_some_iff_append.1 hc
    rw [note_of_controller hc]
    exact .controller hsplit (by simpa using hbefore) hm
  | none =>
    have hnone : ∀ x ∈ d.markers, x.kind.isController = false := by
      simpa using List.find?_eq_none.1 hc
    rw [note_of_no_controller (isController_eq_false_iff.2 hnone)]
    cases hr : d.markers.find? Marker.isRoute with
    | none =>
      have hroutes : ∀ x ∈ d.markers, x.isRoute = false := by simpa using List.find?_eq_none.1 hr
      exact .unrecognized fun x hx => ⟨hnone x hx, hroutes x hx⟩
    | some m =>
      obtain ⟨hm, before, after, hsplit, hbefore⟩ := List.find?_eq_some_iff_append.1 hr
      have hbefore : ∀ x ∈ before, x.isRoute = false := by simpa using hbefore
      simp only [Marker.isRoute, Bool.or_eq_true, decide_eq_true_eq] at hm
      rcases hm with hk | hk
      · simp only [hk, if_true]
        exact .getRoute hnone hsplit hbefore hk
      · simp only [hk, reduceCtorEq, if_false]
        exact .postRoute hnone hsplit hbefore hk

/-- A declaration has one note. -/
theorem notedAs_iff {text : String} : d.NotedAs text ↔ text = d.note := by
  constructor
  · have hfirst {q : Marker → Bool} {before after : List Marker} {m : Marker}
        (hsplit : d.markers = before ++ m :: after) (hbefore : ∀ x ∈ before, q x = false)
        (hm : q m = true) : d.markers.find? q = some m :=
      List.find?_eq_some_iff_append.2 ⟨hm, before, after, hsplit, by simpa using hbefore⟩
    intro h
    cases h with
    | controller hsplit hbefore hm => exact (note_of_controller (hfirst hsplit hbefore hm)).symm
    | getRoute hnone hsplit hbefore hk =>
      have hroute := hfirst (q := Marker.isRoute) hsplit hbefore (by simp [Marker.isRoute, hk])
      rw [note_of_no_controller (isController_eq_false_iff.2 hnone), hroute]
      simp [hk, MarkerKind.name]
    | postRoute hnone hsplit hbefore hk =>
      have hroute := hfirst (q := Marker.isRoute) hsplit hbefore (by simp [Marker.isRoute, hk])
      rw [note_of_no_controller (isController_eq_false_iff.2 hnone), hroute]
      simp [hk, MarkerKind.name]
    | unrecognized hnone =>
      have hcontroller := isController_eq_false_iff.2 fun x hx => (hnone x hx).1
      have hroutes : d.markers.find? Marker.isRoute = none := by
        rw [List.find?_eq_none]
        intro x hx
        simp [(hnone x hx).2]
      rw [note_of_no_controller hcontroller, hroutes]
  · rintro rfl
    exact d.notedAs_note

/-- Of the events of scanning a declaration, one is a note. -/
theorem notes_scanEvents (level : Event.Level) (d : Declaration) :
    (d.scanEvents level).filterMap Event.noteText? = [d.note] := by
  have hreporter : "stubgen::scan" ≠ "stubgen::diagnostics" := by decide
  unfold scanEvents
  rw [List.filterMap_append, List.filterMap_cons, Event.noteText?_note, List.filterMap_nil]
  split
  · rw [List.filterMap_cons, Event.noteText?_eq_none hreporter]
    rfl
  · rfl

theorem notes_flatMap_scanEvents (level : Event.Level) (ds : List Declaration) :
    (ds.flatMap (scanEvents level)).filterMap Event.noteText? = scanNotes ds := by
  induction ds with
  | nil => rfl
  | cons d ds ih =>
    rw [List.flatMap_cons, List.filterMap_append, notes_scanEvents, ih]
    rfl

end Declaration

/-! ## The notes of a round -/

namespace Round

variable {r : Round}

theorem Reachable.isEmpty_iff (h : r.Reachable) :
    r.isEmpty = true ↔ ∀ d ∈ r.declarations, d.markers = [] := by
  have hiff := isEmpty_ofDeclarations_iff r.declarations
  rw [← h.eq_ofDeclarations] at hiff
  rw [hiff]
  constructor
  · intro hnil d hd
    rw [hnil] at hd
    cases hd
  · intro hall
    rw [List.eq_nil_iff_forall_not_mem]
    intro d hd
    rw [h.eq_ofDeclarations] at hd
    exact markers_ne_nil_of_mem hd (hall d (h.eq_ofDeclarations ▸ hd))

end Round

namespace Processor

/-- An empty round leaves no note. -/
theorem notes_processRound_of_isEmpty (p : Processor) {r : Round} (h : r.isEmpty = true)
    (w : World) : ((p.processRound r).runOn w).2.notes = w.notes := by
  have hreporter : reporter ≠ "stubgen::diagnostics" := by decide
  unfold processRound
  rw [if_pos h]
  exact ((Session.quiet_report hreporter).bind fun _ => Session.quiet_pure _).notes_runOn w

/-- A round leaves a note for each declaration, and then one about what is written. -/
theorem notes_processRound_of_marked (p : Processor) {r : Round} (h : r.isEmpty = false)
    (w : World) : ((p.processRound r).runOn w).2.notes =
      w.notes ++ (scanNotes r.declarations ++ [writingNote (scan r.declarations)]) := by
  -- Only the first two steps report notes, and neither of them fails.
  let last : Session ProcessError Report := do
    Session.ofExcept .incomplete ((scan r.declarations).check p.policy)
    let artifacts ← ArtifactKind.all.mapM (p.writeArtifact (scan r.declarations))
    return ⟨some (scan r.declarations), artifacts⟩
  have hlast : Quiet last := (Session.quiet_ofExcept _ _).bind fun _ =>
    (Session.quiet_mapM (p.quiet_writeArtifact _) _).bind fun _ => Session.quiet_pure _
  have hrun : (p.processRound r).runOn w = last.runOn { w with
      events := w.events ++ r.declarations.flatMap (Declaration.scanEvents .info) ++
        [.note .info (writingNote (scan r.declarations))] } := by
    unfold processRound
    rw [h]
    rfl
  rw [hrun, hlast.notes_runOn]
  simp only [World.notes, List.filterMap_append, Declaration.notes_flatMap_scanEvents,
    List.filterMap_cons, Event.noteText?_note, List.filterMap_nil, List.append_assoc]

/-- However a round ends, its notes are none if it has no markers, and otherwise one for each
declaration and one for the model. -/
theorem processRound_notes {r : Round} (hr : r.Reachable) (p : Processor) (w : World) :
    let after := ((p.processRound r).runOn w).2
    ((∀ d ∈ r.declarations, d.markers = []) → after.notes = w.notes) ∧
    ((∃ d ∈ r.declarations, d.markers ≠ []) →
      ∃ texts, List.Forall₂ Declaration.NotedAs r.declarations texts ∧
        after.notes = w.notes ++
          (texts ++ ["Writing files for model: " ++ (scan r.declarations).display])) := by
  intro after
  constructor
  · intro hnone
    exact notes_processRound_of_isEmpty p (hr.isEmpty_iff.2 hnone) w
  · rintro ⟨d, hd, hmarked⟩
    refine ⟨scanNotes r.declarations, ?_, ?_⟩
    · unfold scanNotes
      rw [List.forall₂_map_right_iff, List.forall₂_same]
      exact fun d _ => d.notedAs_note
    · have hempty : r.isEmpty = false := by
        rw [← Bool.not_eq_true, hr.isEmpty_iff]
        exact fun hnone => hmarked (hnone d hd)
      exact notes_processRound_of_marked p hempty w

/-- A strict processor refuses the model of three declarations. -/
theorem processRound_notes_refused :
    let p : Processor := ⟨{}, .ofRoots ⟨"out"⟩ ⟨"mirror"⟩ "rs", .strict⟩
    let r : Round := .ofDeclarations
      [{ name := "a.B.send", markers := [{ kind := .responseBody }, { kind := .postMapping }] },
        { name := "a.B.read", markers := [{ kind := .requestParam }, { kind := .responseBody }] },
        { name := "a.B", markers := [{ kind := .getMapping }, { kind := .restController }] }]
    let w : World := { tree := ⟨[(["w"], .directory)], ["w"]⟩ }
    r.Reachable ∧ ((p.processRound r).runOn w).1.isOk = false ∧
      ((p.processRound r).runOn w).2.notes =
        ["Unknown annotation post_mapping on a.B.send",
          "Unknown annotation request_param, response_body on a.B.read",
          "Processing rest_controller annotation on a.B",
          "Writing files for model: " ++ (scan r.declarations).display] := by
  intro p r w
  have hr : r.Reachable := .listed _
  refine ⟨hr, by decide +kernel, ?_⟩
  have hmarked : ∃ d ∈ r.declarations, d.markers ≠ [] := by decide
  obtain ⟨texts, htexts, hnotes⟩ := (processRound_notes hr p w).2 hmarked
  have htexts : texts = r.declarations.map Declaration.note := by
    rw [← List.forall₂_eq_eq_eq, List.forall₂_map_right_iff]
    exact htexts.flip.imp fun _ _ h => Declaration.notedAs_iff.1 h
  rw [hnotes, htexts]
  decide +kernel

end Processor

end EndpointStubs
