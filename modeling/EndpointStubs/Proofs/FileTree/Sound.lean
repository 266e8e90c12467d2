import Mathlib.Data.List.Nodup
import EndpointStubs.Proofs.FileTree.Reach
import EndpointStubs.Proofs.FileTree.Removal
import EndpointStubs.Proofs.Path.Names

/-!
# Sound trees

A tree as a file system can hold it: every entry lies in a directory and has a name that no path
reads as something else, no location has two entries, and the working directory is there. New
entries and removals away from the working directory keep it so.

    t.Sound → t.createDirectory p = .ok u → u.Sound
    t.Sound → ¬l <+: t.cwd → (t.erase l).Sound                              for l other than the root
-/

namespace EndpointStubs

/-- A character of a piece is a character of the text. -/
theorem Text.mem_of_mem_pieces {sep : Char} {cs p : List Char} {c : Char} (h : p ∈ pieces sep cs)
    (hc : c ∈ p) : c ∈ cs := by
  induction cs generalizing p with
  | nil =>
    obtain rfl := List.mem_singleton.1 h
    cases hc
  | cons a cs ih =>
    obtain ⟨q, qs, hq⟩ := List.exists_cons_of_ne_nil (pieces_ne_nil sep cs)
    rw [hq] at ih
    simp only [pieces, hq] at h
    split at h
    · rcases List.mem_cons.1 h with rfl | h
      · cases hc
      · exact List.mem_cons_of_mem _ (ih h hc)
    · rcases List.mem_cons.1 h with rfl | h
      · rcases List.mem_cons.1 hc with rfl | hc
        · exact List.mem_cons_self
        · exact List.mem_cons_of_mem _ (ih List.mem_cons_self hc)
      · exact List.mem_cons_of_mem _ (ih (List.mem_cons_of_mem _ h) hc)

theorem Path.mem_text_of_mem_body {p : Path} {x : List Char} {c : Char} (h : x ∈ p.body)
    (hc : c ∈ x) : c ∈ p.text.toList := by
  rw [← chars_append_cutHead p.text.toList]
  exact List.mem_append_right _ (Text.mem_of_mem_pieces h hc)

namespace FileTree

open EndpointStubs.Path (isFiller)

/-- A text that can name an entry. -/
structure IsName (n : String) : Prop where
  counts : isFiller n.toList = false
  not_parent : n.toList ≠ ['.', '.']
  no_slash : '/' ∉ n.toList
  no_nul : '\x00' ∉ n.toList
  short : byteCount n.toList ≤ maxName

/-- A tree as a file system can hold it. -/
structure Sound (t : FileTree) : Prop where
  isTree : t.IsTree
  cwd : t.get? t.cwd = some .directory
  names : ∀ l e, t.get? l = some e → ∀ n ∈ l, IsName n
  nodup : (t.entries.map Prod.fst).Nodup

instance (n : String) : Decidable (IsName n) :=
  decidable_of_iff
    (isFiller n.toList = false ∧ n.toList ≠ ['.', '.'] ∧ '/' ∉ n.toList ∧ '\x00' ∉ n.toList ∧
      byteCount n.toList ≤ maxName)
    ⟨fun ⟨hc, hp, hs, hn, hl⟩ => ⟨hc, hp, hs, hn, hl⟩,
      fun h => ⟨h.counts, h.not_parent, h.no_slash, h.no_nul, h.short⟩⟩

theorem IsName.isEntryName {n : String} (h : IsName n) : Path.IsEntryName n :=
  Path.isEntryName_iff.2 ⟨h.counts, h.not_parent, h.no_slash⟩

variable {t u : FileTree} {p : Path} {l k : Location}

theorem mem_entries_of_get? {e : Entry} (hl : l ≠ []) (h : t.get? l = some e) :
    (l, e) ∈ t.entries := by
  rw [get?, if_neg hl, Option.map_eq_some_iff] at h
  obtain ⟨x, hx, rfl⟩ := h
  have hxl : x.1 = l := of_decide_eq_true (List.find?_some hx :)
  exact hxl ▸ List.mem_of_find?_eq_some hx

/-- With distinct locations, an entry of the list is what is found. -/
theorem get?_of_mem_entries {e : Entry} (hn : (t.entries.map Prod.fst).Nodup) (hl : l ≠ [])
    (h : (l, e) ∈ t.entries) : t.get? l = some e := by
  have hsome : (t.entries.find? fun x => decide (x.1 = l)).isSome :=
    List.find?_isSome.2 ⟨_, h, decide_eq_true rfl⟩
  obtain ⟨x, hx⟩ := Option.isSome_iff_exists.1 hsome
  have hxl : x.1 = l := of_decide_eq_true (List.find?_some hx :)
  have : x = (l, e) := List.inj_on_of_nodup_map hn (List.mem_of_find?_eq_some hx) h hxl
  rw [get?, if_neg hl, hx, this]
  rfl

/-- Soundness as conditions on the list of entries, which can be decided. -/
theorem sound_iff : t.Sound ↔
    (t.entries.map Prod.fst).Nodup ∧ t.get? t.cwd = some .directory ∧
      ∀ x ∈ t.entries, x.1 ≠ [] →
        t.get? x.1.dropLast = some .directory ∧ ∀ n ∈ x.1, IsName n := by
  constructor
  · intro h
    refine ⟨h.nodup, h.cwd, fun x hx hne => ?_⟩
    have hget := get?_of_mem_entries h.nodup hne hx
    exact ⟨h.isTree _ _ hne hget, h.names _ _ hget⟩
  · rintro ⟨hn, hcwd, hall⟩
    refine ⟨fun l e hl he => ?_, hcwd, fun l e he n hln => ?_, hn⟩
    · exact (hall _ (mem_entries_of_get? hl he) hl).1
    · have hl := List.ne_nil_of_mem hln
      exact (hall _ (mem_entries_of_get? hl he) hl).2 n hln

instance (t : FileTree) : Decidable t.Sound := decidable_of_iff _ sound_iff.symm

theorem Sound.directory_of_isPrefix (h : t.Sound) {e : Entry} (hk : t.get? k = some e) (hl : l <+: k)
    (hne : l ≠ k) : t.get? l = some .directory := by
  obtain ⟨rel, rfl⟩ := hl
  exact h.isTree.directory_of_append (fun hrel => hne (by simp [hrel])) hk

theorem Sound.get?_of_isPrefix_cwd (h : t.Sound) (hl : l <+: t.cwd) :
    t.get? l = some .directory := by
  by_cases hne : l = t.cwd
  · exact hne ▸ h.cwd
  · exact h.directory_of_isPrefix h.cwd hl hne

/-! ## New entries -/

/-- A new entry with a proper name in a directory keeps a tree sound. -/
theorem Sound.insert (h : t.Sound) {d : Location} {n : String} (hd : t.get? d = some .directory)
    (hn : IsName n) (hnone : t.get? (d ++ [n]) = none) (e : Entry) :
    (t.insert (d ++ [n]) e).Sound := by
  have hw := (grows_insert hnone e).within
  have hother : ∀ {k x}, (t.insert (d ++ [n]) e).get? k = some x →
      k = d ++ [n] ∨ t.get? k = some x := by
    intro k x hk
    by_cases hkd : k = d ++ [n]
    · exact .inl hkd
    · exact .inr (get?_insert_of_ne e hkd ▸ hk)
  constructor
  · intro k x hk hx
    rcases hother hx with rfl | hx
    · rw [List.dropLast_concat]
      exact hw.keeps _ _ hd
    · exact hw.keeps _ _ (h.isTree k x hk hx)
  · exact hw.keeps _ _ h.cwd
  · intro k x hx m hm
    rcases hother hx with rfl | hx
    · rcases List.mem_append.1 hm with hm | hm
      · exact h.names d _ hd m hm
      · exact List.mem_singleton.1 hm ▸ hn
    · exact h.names k x hx m hm
  · have hmem : d ++ [n] ∉ t.entries.map Prod.fst := by
      intro hm
      obtain ⟨x, hx, hxd⟩ := List.mem_map.1 hm
      simp only [get?, List.append_eq_nil_iff, List.cons_ne_nil, and_false, if_false,
        Option.map_eq_none_iff, List.find?_eq_none] at hnone
      exact hnone x hx (by simpa using hxd)
    rw [FileTree.insert, List.map_append, List.nodup_append]
    refine ⟨h.nodup, by simp, ?_⟩
    rintro a ha b hb rfl
    rw [List.map_singleton, List.mem_singleton] at hb
    exact hmem ((show a = d ++ [n] from hb) ▸ ha)

theorem isName_of_freshAt {before tail : List (List Char)} {name : List Char} {d : Location}
    (h : t.FreshAt p before name tail d) (hn : byteCount name ≤ maxName) :
    IsName (String.ofList name) := by
  have hmem : name ∈ p.body := by rw [h.body]; simp
  refine ⟨?_, ?_, ?_, ?_, ?_⟩
  · simpa using h.name_counts
  · simpa using h.name_ne
  · simpa using Path.not_mem_of_mem_body hmem
  · intro hc
    rw [String.toList_ofList] at hc
    exact (checkText_eq_ok_iff.1 h.text).1 (Path.mem_text_of_mem_body hmem hc)
  · simpa using hn

theorem Sound.insert_of_placeOf (h : t.Sound) {d : Location} {name : List Char} {slash : Bool}
    (hp : t.placeOf p = .ok (.fresh d name slash)) (hl : t.freeLocation d name = .ok l)
    (e : Entry) : (t.insert l e).Sound := by
  obtain ⟨before, tail, hf, -⟩ := freshAt_of_placeOf hp
  obtain ⟨rfl, hn, hnone⟩ := freeLocation_eq_ok_iff.1 hl
  exact h.insert hf.directory (isName_of_freshAt hf hn) hnone e

theorem Sound.createDirectory (h : t.Sound) (hu : t.createDirectory p = .ok u) : u.Sound := by
  obtain ⟨d, name, slash, l, hp, hl, rfl⟩ := createDirectory_eq_ok_iff.1 hu
  exact h.insert_of_placeOf hp hl _

theorem Sound.createFile (h : t.Sound) {bytes : ByteArray} (hu : t.createFile p bytes = .ok u) :
    u.Sound := by
  obtain ⟨d, name, l, hp, hl, rfl⟩ := createFile_eq_ok_iff.1 hu
  exact h.insert_of_placeOf hp hl _

/-! ## Removal -/

theorem Sound.erase (h : t.Sound) (hl : l ≠ []) (hcwd : ¬l <+: t.cwd) : (t.erase l).Sound := by
  have hw := without_erase hl t
  constructor
  · intro k e hk he
    obtain ⟨he, hapart⟩ := (hw.get?_iff k e).1 he
    refine (hw.get?_iff _ _).2 ⟨h.isTree k e hk he, fun m hm hmk => hapart m hm ?_⟩
    exact hmk.trans (List.dropLast_prefix k)
  · exact (hw.get?_iff _ _).2 ⟨h.cwd, fun m hm => List.mem_singleton.1 hm ▸ hcwd⟩
  · exact fun k e he => h.names k e ((hw.get?_iff k e).1 he).1
  · exact h.nodup.sublist (List.filter_sublist.map _)

end FileTree

end EndpointStubs
