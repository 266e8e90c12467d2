import Mathlib.Data.Set.List
import EndpointStubs.Proofs.Path.Derived

/-!
# Names in paths

A name is a text that is one step of a path, down to an entry. Names with slashes between them are
the components of their path, and a name at the end of a path is what the path above it lacks. The
stem of a name stands before its last dot, except that a dot in front does not count.

    (p.join ⟨joinStrings "/" names⟩).components = p.components ++ names.map .normal
    p.components = cs ++ [.normal n] → p.parent? = some q ∧ q.components = cs
    p.fileName? = some n → IsStem n s → p.fileStem? = some s
-/

namespace EndpointStubs.Path

/-! ## Names -/

/-- The text of a component that leads down: one name of an entry of a directory. -/
def IsEntryName (n : String) : Prop := n ≠ "" ∧ n ≠ "." ∧ n ≠ ".." ∧ '/' ∉ n.toList

instance (n : String) : Decidable (IsEntryName n) :=
  inferInstanceAs (Decidable (n ≠ "" ∧ n ≠ "." ∧ n ≠ ".." ∧ '/' ∉ n.toList))

variable {p q : Path} {n : String} {names : List String} {cs : List Component}

theorem IsEntryName.ne_empty (h : IsEntryName n) : n ≠ "" := h.1

theorem isEntryName_iff : IsEntryName n ↔
    isFiller n.toList = false ∧ n.toList ≠ ['.', '.'] ∧ '/' ∉ n.toList := by
  have hcurrent : n.toList = ['.'] ↔ n = "." := @String.toList_inj n "."
  have hparent : n.toList = ['.', '.'] ↔ n = ".." := @String.toList_inj n ".."
  simp only [IsEntryName, isFiller_eq_false_iff, ne_eq, String.toList_eq_nil_iff, hcurrent, hparent,
    and_assoc]

theorem IsEntryName.pieceComponent_eq (h : IsEntryName n) :
    pieceComponent n.toList = .normal n := by
  rw [pieceComponent, if_neg (isEntryName_iff.1 h).2.1, String.ofList_toList]

theorem isEntryName_of_mem_components (h : Component.normal n ∈ p.components) : IsEntryName n := by
  rw [components_eq, List.mem_append] at h
  rcases h with h | h
  · cases hh : p.head <;> simp [hh, Head.components] at h
  · obtain ⟨x, hx, hn⟩ := List.mem_map.1 h
    obtain ⟨hbody, hcounts⟩ := List.mem_filter.1 hx
    unfold pieceComponent at hn
    split at hn
    · cases hn
    · rename_i hparent
      obtain rfl := Component.normal.inj hn
      rw [isEntryName_iff, String.toList_ofList]
      exact ⟨by simpa using hcounts, hparent, not_mem_of_mem_body hbody⟩

theorem exists_names_of_forall (h : ∀ c ∈ cs, ∃ n, c = .normal n) :
    ∃ names : List String, cs = names.map .normal := by
  have hrange : cs ∈ Set.range (List.map Component.normal) := by
    rw [Set.range_list_map]
    exact fun c hc => (h c hc).imp fun _ => Eq.symm
  obtain ⟨names, rfl⟩ := hrange
  exact ⟨names, rfl⟩

theorem bodyComponents_names (h : ∀ n ∈ names, IsEntryName n) :
    bodyComponents (names.map String.toList) = names.map .normal := by
  induction names with
  | nil => rfl
  | cons n names ih =>
    obtain ⟨hn, hrest⟩ := List.forall_mem_cons.1 h
    rw [List.map_cons, bodyComponents_cons (isEntryName_iff.1 hn).1, hn.pieceComponent_eq, ih hrest]
    rfl

/-! ## Paths of names -/

theorem head_eq_none_of_components (h : p.components = names.map .normal) : p.head = .none := by
  rw [components_eq] at h
  cases hh : p.head with
  | none => rfl
  | root | current =>
    rw [hh] at h
    cases names <;> simp [Head.components] at h

/-- Names of entries with slashes between are these names again. -/
theorem components_joinStrings (h : ∀ n ∈ names, IsEntryName n) :
    (Path.mk (Text.joinStrings "/" names)).components = names.map .normal := by
  rw [← bodyComponents_names h]
  refine components_ofBody_none (fun x hx => ?_) fun x hx => ?_
  · obtain ⟨n, hn, rfl⟩ := List.mem_map.1 hx
    exact (isEntryName_iff.1 (h n hn)).2.2
  · obtain ⟨n, hn, rfl⟩ := List.mem_map.1 (List.mem_of_head? hx)
    exact (isEntryName_iff.1 (h n hn)).1

/-- Names behind a path are added to its components. -/
theorem components_join_names (p : Path) (h : ∀ n ∈ names, IsEntryName n) :
    (p.join ⟨Text.joinStrings "/" names⟩).components = p.components ++ names.map .normal := by
  have hnames := components_joinStrings h
  rw [components_join (head_eq_none_of_components hnames), hnames]

/-! ## The path above a name -/

theorem parentBodies_of_dropWhile {bs suf : List (List Char)} {b : List Char}
    (h : bs.dropWhile isFiller = b :: suf) :
    parentBodies bs = suf.dropWhile isFiller :: parentBodies suf := by
  have hb := List.head?_dropWhile_not isFiller bs
  rw [h] at hb
  rw [← parentBodies_dropWhile, h, parentBodies, if_neg (by simpa using hb)]

/-- Above a path that ends in a name lies the path without it. -/
theorem exists_parent? (h : p.components = cs ++ [.normal n]) :
    ∃ q, p.parent? = some q ∧ q.components = cs := by
  have hbody : bodyComponents p.body =
      (bodyComponents (p.body.reverse.dropWhile isFiller)).reverse := by
    rw [bodyComponents_dropWhile, bodyComponents_reverse, List.reverse_reverse]
  cases hd : p.body.reverse.dropWhile isFiller with
  | nil =>
    -- Only a head would be left, and no head is a name.
    rw [components_eq, hbody, hd] at h
    have hlast := congrArg List.getLast? h
    cases hh : p.head <;> simp [hh, Head.components] at hlast
  | cons b suf =>
    have hparents := parentBodies_of_dropWhile hd
    obtain ⟨-, -, -, hpre⟩ := exists_of_parentBodies_eq_cons hparents
    rw [List.reverse_reverse] at hpre
    refine ⟨ofBody p.head (suf.dropWhile isFiller).reverse, ?_, ?_⟩
    · rw [parent?, parents, hparents]
      rfl
    · have hb := List.head?_dropWhile_not isFiller p.body.reverse
      rw [hd] at hb hbody
      rw [components_eq, hbody, bodyComponents_cons (by simpa using hb), List.reverse_cons,
        ← List.append_assoc] at h
      rw [components_ofBody hpre (endsCounting_reverse_dropWhile suf), bodyComponents_reverse,
        bodyComponents_dropWhile]
      exact (List.append_inj' h rfl).1

/-! ## File names -/

theorem fileName?_of_components (h : p.components = cs ++ [.normal n]) : p.fileName? = some n := by
  rw [fileName?, h, List.getLast?_concat]

/-- The stem of a name and the name. -/
inductive IsStem : String → String → Prop where
  | whole {name : String} (h : '.' ∉ name.toList) : IsStem name name
  /-- A dot in front, and no other one. -/
  | hidden {name : String} (h : '.' ∉ name.toList) : IsStem ("." ++ name) ("." ++ name)
  | cut {stem ending : String} (hne : stem ≠ "") (h : '.' ∉ ending.toList) :
    IsStem (stem ++ "." ++ ending) stem

theorem exists_isStem (name : String) : ∃ stem, IsStem name stem := by
  cases hs : Text.splitAtLast '.' name.toList with
  | none => exact ⟨name, .whole (Text.not_mem_of_splitAtLast_eq_none hs)⟩
  | some parts =>
    obtain ⟨a, b⟩ := parts
    have hb : '.' ∉ (String.ofList b).toList := by
      rw [String.toList_ofList]
      exact Text.not_mem_of_splitAtLast hs
    have hname : name = String.ofList a ++ "." ++ String.ofList b := by
      rw [← String.toList_inj, Text.eq_of_splitAtLast hs]
      simp
    by_cases ha : a = []
    · subst ha
      exact ⟨name, hname ▸ .hidden hb⟩
    · exact ⟨String.ofList a, hname ▸ .cut (by simpa using ha) hb⟩

theorem IsStem.fileStem?_eq {name stem : String} (hs : IsStem name stem)
    (h : p.fileName? = some name) : p.fileStem? = some stem := by
  rw [fileStem?, h, Option.map_some]
  cases hs with
  | whole hdot => rw [Text.splitAtLast_of_not_mem hdot]
  | @hidden name hdot =>
    have hsplit := Text.splitAtLast_append hdot []
    rw [show ("." ++ name).toList = [] ++ '.' :: name.toList by simp, hsplit]
    rfl
  | @cut _ ending hne hdot =>
    have hsplit := Text.splitAtLast_append hdot stem.toList
    rw [show (stem ++ "." ++ ending).toList = stem.toList ++ '.' :: ending.toList by simp, hsplit]
    simp [hne]

theorem IsStem.ne_empty {name stem : String} (hs : IsStem name stem) (hne : name ≠ "") :
    stem ≠ "" := by
  cases hs with
  | whole => exact hne
  | hidden => exact hne
  | cut hstem => exact hstem

end EndpointStubs.Path
