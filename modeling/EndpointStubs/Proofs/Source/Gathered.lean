import EndpointStubs.Proofs.Round.Concatenated
import EndpointStubs.Proofs.Session
import EndpointStubs.Proofs.Source.InTurn
import EndpointStubs.Source.Collect

/-!
# Gathering a round

Sources and manifests are loaded one after the other, sources first, and the first that fails is
what gathering fails with. If none fails, the round is that of all declarations in a row: where one
origin ends and the next begins leaves no trace.

    (o.collect.runOn w).1 =
      (inTurn (Origin.declarations w.tree o.rootPackage) o.all).map ofDeclarations
-/

namespace EndpointStubs

/-- The round of a manifest is that of what is loaded. -/
theorem Manifest.reads_loadRound (p : Path) :
    Session.Reads (loadRound p) fun t => (load t p).map Manifest.round := by
  have h := Session.reads_tree_bind fun t =>
    (Session.reads_ofExcept id (load t p)).bind fun m =>
      (Session.reads_report (loaded p m.declarations.length)).bind fun _ =>
        Session.reads_pure m.round
  refine h.congr fun t => ?_
  cases load t p <;> rfl

inductive Origin where
  | source (path : Path)
  | manifest (path : Path)
  deriving DecidableEq, Repr

namespace Origin

/-- The declarations of an origin, with markers or without. -/
def declarations (t : FileTree) (rootPackage : Option String) :
    Origin → Except CollectError (List Declaration)
  | source p => (Source.declarations t p rootPackage).mapError .source
  | manifest p => ((Manifest.load t p).mapError .manifest).map Manifest.declarations

/-- Loads the round of an origin and reports about it. -/
def load (rootPackage : Option String) : Origin → Session CollectError Round
  | source p => Session.mapError .source (Source.scan p rootPackage)
  | manifest p => Session.mapError .manifest (Manifest.loadRound p)

/-- The round of an origin is that of its declarations. -/
theorem reads_load (rootPackage : Option String) (x : Origin) :
    Session.Reads (x.load rootPackage) fun t =>
      (x.declarations t rootPackage).map Round.ofDeclarations := by
  cases x with
  | source p =>
    have h := (Session.reads_tree_bind fun t =>
      (Session.reads_ofExcept id (Source.declarations t p rootPackage)).bind fun ds =>
        (Session.reads_report (Source.scanned p ds.length)).bind fun _ =>
          Session.reads_pure (Round.ofDeclarations ds)).mapError CollectError.source
    refine h.congr fun t => ?_
    simp only [declarations]
    cases Source.declarations t p rootPackage <;> rfl
  | manifest p =>
    refine ((Manifest.reads_loadRound p).mapError CollectError.manifest).congr fun t => ?_
    simp only [declarations]
    cases Manifest.load t p <;> rfl

end Origin

namespace Origins

/-- Everything that is loaded, in order. -/
def all (o : Origins) : List Origin := o.sources.map .source ++ o.manifests.map .manifest

theorem rounds_eq (o : Origins) : o.rounds = o.all.mapM (Origin.load o.rootPackage) := by
  rw [all, List.mapM_append, List.mapM_map, List.mapM_map]
  rfl

end Origins

/-- Rounds put together are the round of all their declarations. -/
theorem Round.foldl_extend_ofDeclarations (a : List Declaration) (dss : List (List Declaration)) :
    (dss.map ofDeclarations).foldl extend (ofDeclarations a) =
      ofDeclarations (a ++ dss.flatten) := by
  induction dss generalizing a with
  | nil => simp
  | cons ds dss ih =>
    rw [List.map_cons, List.foldl_cons, extend_ofDeclarations, ih, List.flatten_cons,
      List.append_assoc]

namespace Origins

/-- Gathering only reads, and gives the round of all declarations in a row. -/
theorem reads_collect (o : Origins) : Session.Reads o.collect fun t =>
    (Source.inTurn (Origin.declarations t o.rootPackage) o.all).map Round.ofDeclarations := by
  have h := (Session.reads_mapM (Origin.reads_load o.rootPackage) o.all).bind fun rs =>
    Session.reads_pure (rs.foldl Round.extend {})
  rw [← rounds_eq] at h
  refine h.congr fun t => ?_
  rw [Source.mapM_map_ok]
  unfold Source.inTurn
  cases o.all.mapM (Origin.declarations t o.rootPackage) with
  | error e => rfl
  | ok dss => exact congrArg Except.ok (Round.foldl_extend_ofDeclarations [] dss)

/-! ## Everything about rounds -/

/-- In every round, however it is put together, each declaration has a marker, the kinds are those
of the markers, each listed once, and there is none exactly if there is no declaration. Putting
rounds together is putting declarations together, and the round of nothing changes nothing. So a
round that is gathered is that of the declarations of all origins in order, sources first, if all of
them can be loaded, and the failure of the first that cannot be loaded otherwise. -/
theorem collect_concatenates :
    (∀ r : Round, r.Reachable →
      (∀ d ∈ r.declarations, d.markers ≠ []) ∧
      r.annotations.Ordered ∧
      (∀ k, k ∈ r.annotations ↔ ∃ d ∈ r.declarations, ∃ m ∈ d.markers, m.kind = k) ∧
      (r.isEmpty = true ↔ r.declarations = []) ∧
      r.extend {} = r ∧ Round.extend {} r = r) ∧
    (∀ a b : List Declaration,
      (Round.ofDeclarations a).extend (.ofDeclarations b) = .ofDeclarations (a ++ b)) ∧
    ∀ (o : Origins) (w : World),
      (∀ r, (o.collect.runOn w).1 = .ok r ↔
        ∃ dss, List.Forall₂ (fun x ds => x.declarations w.tree o.rootPackage = .ok ds) o.all dss ∧
          r = .ofDeclarations dss.flatten) ∧
      ∀ e, (o.collect.runOn w).1 = .error e ↔
        ∃ before x after, o.all = before ++ x :: after ∧
          (∀ y ∈ before, ∃ ds, y.declarations w.tree o.rootPackage = .ok ds) ∧
          x.declarations w.tree o.rootPackage = .error e := by
  refine ⟨fun r hr => ?_, Round.extend_ofDeclarations, fun o w => ?_⟩
  · have hall := hr.eq_ofDeclarations
    have hordered : r.annotations.Ordered := hall ▸ Round.ordered_annotations_ofDeclarations _
    refine ⟨fun d hd => ?_, hordered, fun k => ?_, ?_, Round.extend_nothing r,
      Round.nothing_extend hordered⟩
    · rw [hall] at hd
      exact Round.markers_ne_nil_of_mem hd
    · rw [hall]
      exact Round.mem_annotations_ofDeclarations
    · rw [hall]
      exact Round.isEmpty_ofDeclarations_iff _
  · rw [o.reads_collect.result w]
    refine ⟨fun r => ?_, fun e => ?_⟩
    · rw [Source.map_eq_ok_iff]
      constructor
      · rintro ⟨ds, hds, rfl⟩
        obtain ⟨dss, hdss, rfl⟩ := Source.inTurn_eq_ok_iff.1 hds
        exact ⟨dss, hdss, rfl⟩
      · rintro ⟨dss, hdss, rfl⟩
        exact ⟨dss.flatten, Source.inTurn_eq_ok_iff.2 ⟨dss, hdss, rfl⟩, rfl⟩
    · rw [Source.map_eq_error_iff]
      exact Source.inTurn_eq_error_iff

/-- A source and a manifest, which also names a declaration without markers. -/
theorem collect_concatenates_two :
    let o : Origins := { sources := [⟨"a.rs"⟩], manifests := [⟨"m.json"⟩] }
    let text := "\x7b\"declarations\": [\x7b\"name\": \"b\"\x7d, " ++
      "\x7b\"name\": \"c\", \"markers\": [\x7b\"kind\": \"get_mapping\"\x7d]\x7d]\x7d"
    let w : World :=
      { tree := ⟨[(["w"], .directory),
          (["w", "a.rs"], .file "#[controller] struct A;".toUTF8),
          (["w", "m.json"], .file text.toUTF8)], ["w"]⟩ }
    let a : Declaration := { name := "a.A", markers := [{ kind := .controller }] }
    let b : Declaration := { name := "b" }
    let c : Declaration := { name := "c", markers := [{ kind := .getMapping }] }
    (o.collect.runOn w).1 = .ok (.ofDeclarations [a, b, c]) ∧
      (Round.ofDeclarations [a, b, c]).Reachable ∧
      ∀ d ∈ (Round.ofDeclarations [a, b, c]).declarations, d.markers ≠ [] := by
  intro o text w a b c
  obtain ⟨hrounds, -, hcollect⟩ := collect_concatenates
  have hsource : (Origin.source ⟨"a.rs"⟩).declarations w.tree none = .ok [a] := by decide +kernel
  have hmanifest : (Origin.manifest ⟨"m.json"⟩).declarations w.tree none = .ok [b, c] := by
    decide +kernel
  refine ⟨((hcollect o w).1 _).2 ⟨[[a], [b, c]], ?_, rfl⟩, .listed _, (hrounds _ (.listed _)).1⟩
  exact .cons hsource (.cons hmanifest .nil)

end Origins

end EndpointStubs
