import EndpointStubs.Proofs.Document
import EndpointStubs.Proofs.Json.Written
import EndpointStubs.Proofs.Source.Gathered

/-!
# Rounds that are shipped as manifests

A list that is left out is read as the empty one, and a type that is left out as a missing one, so a
manifest that is written as JSON is read as itself, whichever fields of its markers and declarations
are there, empty or missing. Only declarations without markers get lost when it becomes a round, and
a round has none of them, so a round that is written as a manifest is loaded as itself, its kinds
included.

    Manifest.ofDocument? Json.view m.toJson = some m
    r.Reachable → ((Manifest.ofDocument? Json.view (Manifest.toJson ⟨r.declarations⟩)).map
      Manifest.round) = some r
-/

namespace EndpointStubs

/-! ## Records in JSON -/

/-- An object with distinct names is a record of the values under them. -/
theorem Json.record?_ofFields {fields : List (String × Json)} (h : (fields.map Prod.fst).Nodup)
    (names : List String) :
    view.record? names false (ofFields fields) = some (names.map (View.named? fields)) := by
  rw [View.record?_of_distinct h rfl rfl]
  exact if_pos nofun

/-- Texts that are left out if there are none. -/
def Json.ofTexts? (ss : List String) : Option Json := if ss = [] then none else some (ofStrings ss)

theorem textsOfDocument?_ofTexts? (ss : List String) :
    textsOfDocument? Json.view (Json.ofTexts? ss) = some ss := by
  unfold Json.ofTexts?
  split
  · rename_i h
    rw [h]
    rfl
  · exact View.list?_of_reads (v := Json.view) rfl fun _ _ => rfl

/-! ## Markers, declarations and manifests -/

/-- The fields of a marker that are written, by name. -/
theorem Marker.record?_toJson (m : Marker) :
    Json.view.record? ["kind", "path", "value"] false m.toJson =
      some [some (Json.ofString m.kind.name), Json.ofTexts? m.path, Json.ofTexts? m.value] := by
  unfold toJson Json.ofTexts?
  rw [Json.record?_ofFields]
  · by_cases hpath : m.path = []
    · by_cases hvalue : m.value = []
      · rw [if_pos hpath, if_pos hvalue, if_pos hpath, if_pos hvalue]
        rfl
      · rw [if_pos hpath, if_neg hvalue, if_pos hpath, if_neg hvalue]
        rfl
    · by_cases hvalue : m.value = []
      · rw [if_neg hpath, if_pos hvalue, if_neg hpath, if_pos hvalue]
        rfl
      · rw [if_neg hpath, if_neg hvalue, if_neg hpath, if_neg hvalue]
        rfl
  · split <;> split <;> simp

theorem Marker.ofDocument?_toJson (m : Marker) : ofDocument? Json.view m.toJson = some m := by
  have hkind : MarkerKind.ofDocument? Json.view (Json.ofString m.kind.name) = some m.kind :=
    MarkerKind.ofName?_name m.kind
  unfold ofDocument?
  rw [record?_toJson]
  simp only [Option.bind_eq_bind, Option.bind_some, hkind, textsOfDocument?_ofTexts?]
  rfl

theorem Declaration.record?_toJson (d : Declaration) :
    Json.view.record? ["name", "markers", "declared_type"] false d.toJson =
      some [some (Json.ofString d.name), some (.array (d.markers.map Marker.toJson)),
        d.declaredType.map Json.ofString] := by
  unfold toJson
  cases d.declaredType with
  | none =>
    rw [Json.record?_ofFields (by simp)]
    rfl
  | some type =>
    rw [Json.record?_ofFields (by simp)]
    rfl

theorem Declaration.ofDocument?_toJson (d : Declaration) :
    ofDocument? Json.view d.toJson = some d := by
  have hname : Json.view.text? (Json.ofString d.name) = some d.name := rfl
  have hmarkers : View.orElse [] (Json.view.list? (Marker.ofDocument? Json.view))
      (some (.array (d.markers.map Marker.toJson))) = some d.markers :=
    View.list?_of_reads (v := Json.view) rfl fun m _ => Marker.ofDocument?_toJson m
  have htype : View.orElse none (Json.view.optional? Json.view.text?)
      (d.declaredType.map Json.ofString) = some d.declaredType := by
    cases d.declaredType <;> rfl
  unfold ofDocument?
  rw [record?_toJson]
  simp only [Option.bind_eq_bind, Option.bind_some, hname, hmarkers, htype]
  rfl

namespace Manifest

theorem ofDocument?_toJson (m : Manifest) : ofDocument? Json.view m.toJson = some m := by
  have hdeclarations : View.orElse [] (Json.view.list? (Declaration.ofDocument? Json.view))
      (some (.array (m.declarations.map Declaration.toJson))) = some m.declarations :=
    View.list?_of_reads (v := Json.view) rfl fun d _ => Declaration.ofDocument?_toJson d
  unfold ofDocument? toJson
  rw [Json.record?_ofFields (by simp)]
  show (View.orElse [] (Json.view.list? (Declaration.ofDocument? Json.view))
    (some (.array (m.declarations.map Declaration.toJson)))).bind _ = _
  rw [hdeclarations]
  rfl

end Manifest

/-! ## Texts -/

theorem Json.isTextual_ofStrings (ss : List String) : IsTextual (ofStrings ss) := by
  refine .array fun j hj => ?_
  obtain ⟨s, -, rfl⟩ := List.mem_map.1 hj
  exact .string s

theorem Marker.isTextual_toJson (m : Marker) : m.toJson.IsTextual := by
  refine .object fun f hf => ?_
  rcases List.mem_append.1 hf with hf | hvalue
  · rcases List.mem_append.1 hf with hkind | hpath
    · obtain rfl := List.mem_singleton.1 hkind
      exact .string m.kind.name
    · split at hpath
      · cases hpath
      · obtain rfl := List.mem_singleton.1 hpath
        exact Json.isTextual_ofStrings m.path
  · split at hvalue
    · cases hvalue
    · obtain rfl := List.mem_singleton.1 hvalue
      exact Json.isTextual_ofStrings m.value

theorem Declaration.isTextual_toJson (d : Declaration) : d.toJson.IsTextual := by
  refine .object fun f hf => ?_
  rcases List.mem_append.1 hf with hf | htype
  · rcases List.mem_cons.1 hf with rfl | hmarkers
    · exact .string d.name
    · obtain rfl := List.mem_singleton.1 hmarkers
      refine .array fun j hj => ?_
      obtain ⟨m, -, rfl⟩ := List.mem_map.1 hj
      exact m.isTextual_toJson
  · split at htype
    · rename_i type _
      obtain rfl := List.mem_singleton.1 htype
      exact .string type
    · cases htype

namespace Manifest

theorem isTextual_toJson (m : Manifest) : m.toJson.IsTextual := by
  refine .object fun f hf => ?_
  obtain rfl := List.mem_singleton.1 hf
  refine .array fun j hj => ?_
  obtain ⟨d, -, rfl⟩ := List.mem_map.1 hj
  exact d.isTextual_toJson

/-- The text of a manifest is read as the manifest. -/
theorem ofText?_compact (m : Manifest) : ofText? .json m.toJson.compact = some m := by
  show (Json.read m.toJson.compact).bind (ofDocument? Json.view) = some m
  rw [m.isTextual_toJson.read_compact]
  exact m.ofDocument?_toJson

/-- What was written as a manifest is loaded again. -/
theorem load_written {t : FileTree} {p : Path} {m : Manifest} (hp : Format.ofPath p = .json)
    (ht : t.readText p = .ok m.toJson.compact) : load t p = .ok m := by
  unfold load
  rw [ht, hp]
  simp only [ofText?_compact]

end Manifest

/-! ## Rounds -/

namespace Round

def toManifest (r : Round) : Manifest := ⟨r.declarations⟩

theorem Reachable.round_toManifest {r : Round} (h : r.Reachable) : r.toManifest.round = r :=
  h.eq_ofDeclarations.symm

/-- **Shipping.** A manifest is read as itself from the JSON that it is written as, as a value and
as a text. So the manifest of a round, however this was put together, gives the round itself, also
when it is loaded from a file that holds its text. -/
theorem ships_as_manifest :
    (∀ m : Manifest, Manifest.ofDocument? Json.view m.toJson = some m ∧
      Manifest.ofText? .json m.toJson.compact = some m) ∧
    ∀ r : Round, r.Reachable →
      (Manifest.ofDocument? Json.view r.toManifest.toJson).map Manifest.round = some r ∧
      ∀ (p : Path) (w : World), Manifest.Format.ofPath p = .json →
        w.tree.readText p = .ok r.toManifest.toJson.compact →
        ((Manifest.loadRound p).runOn w).1 = .ok r := by
  refine ⟨fun m => ⟨m.ofDocument?_toJson, m.ofText?_compact⟩, fun r hr => ⟨?_, ?_⟩⟩
  · rw [Manifest.ofDocument?_toJson, Option.map_some, hr.round_toManifest]
  · intro p w hp ht
    rw [(Manifest.reads_loadRound p).result w, Manifest.load_written hp ht]
    show Except.ok r.toManifest.round = .ok r
    rw [hr.round_toManifest]

/-- Two rounds put together, with a name in quotes, a marker without paths, and an empty type. -/
theorem ships_as_manifest_quoted :
    let c : Declaration := { name := "a.\"É\"", markers := [{ kind := .restController }] }
    let g : Declaration :=
      { name := "a.get", markers := [{ kind := .getMapping, value := ["/\x7bid\x7d", ""] }]
        declaredType := some "" }
    let r := (Round.ofDeclarations [c, { name := "b" }]).extend (.ofDeclarations [g])
    let text := "\x7b\"declarations\":[" ++
      "\x7b\"name\":\"a.\\\"É\\\"\",\"markers\":[\x7b\"kind\":\"rest_controller\"\x7d]\x7d," ++
      "\x7b\"name\":\"a.get\",\"markers\":[\x7b\"kind\":\"get_mapping\"," ++
      "\"value\":[\"/\x7bid\x7d\",\"\"]\x7d],\"declared_type\":\"\"\x7d]\x7d"
    let w : World :=
      { tree := ⟨[(["w"], .directory), (["w", "m.json"], .file text.toUTF8)], ["w"]⟩ }
    r.Reachable ∧ r.declarations = [c, g] ∧
      (Manifest.ofDocument? Json.view r.toManifest.toJson).map Manifest.round = some r ∧
      ((Manifest.loadRound ⟨"m.json"⟩).runOn w).1 = .ok r := by
  intro c g r text w
  have hr : r.Reachable := .extend (.listed _) (.listed _)
  have htext : r.toManifest.toJson.compact = text := by decide +kernel
  have hread : w.tree.readText ⟨"m.json"⟩ = .ok r.toManifest.toJson.compact := by
    rw [htext]
    decide +kernel
  obtain ⟨hdocument, hload⟩ := ships_as_manifest.2 r hr
  exact ⟨hr, rfl, hdocument, hload _ w (by decide +kernel) hread⟩

end Round

end EndpointStubs
