import EndpointStubs.FileTree.Listing
import EndpointStubs.Proofs.FileTree.Sound
import EndpointStubs.Proofs.Text.Order

/-!
# Listings of sound trees

Where no location has two entries, what lies below a location is listed strictly in order, and a
list in that order is known from its members. So a listing can be cut by the names of the directory:
each entry stands in front of what lies below it.

    t.below l = (t.children l).flatMap (t.branch l)
    t.branch l (n, e) = ([n], e) :: (t.below (l ++ [n])).map (n :: ·)
-/

namespace EndpointStubs.FileTree

variable {t : FileTree} {l : Location}

/-! ## Strict order -/

/-- The order of a listing. -/
def Precedes (y z : Location × Entry) : Prop := Text.inOrder y.1 z.1 = true ∧ y.1 ≠ z.1

theorem Precedes.cons_iff {n : String} {k k' : Location} {e e' : Entry} :
    Precedes (n :: k, e) (n :: k', e') ↔ Precedes (k, e) (k', e') := by
  simp [Precedes, Text.inOrder]

theorem precedes_of_lt {n m : String} (h : n < m) (k k' : Location) (e e' : Entry) :
    Precedes (n :: k, e) (m :: k', e') := by
  have hne : n ≠ m := ne_of_lt h
  simp [Precedes, Text.inOrder, hne, h]

/-- Lists in strict order are the same if their members are. -/
theorem eq_of_pairwise_precedes {ys zs : List (Location × Entry)} (hys : ys.Pairwise Precedes)
    (hzs : zs.Pairwise Precedes) (hmem : ∀ y, y ∈ ys ↔ y ∈ zs) : ys = zs := by
  have nodup : ∀ {xs : List (Location × Entry)}, xs.Pairwise Precedes → xs.Nodup :=
    fun h => h.imp fun hb he => hb.2 (congrArg Prod.fst he)
  have hperm := (List.perm_ext_iff_of_nodup (nodup hys) (nodup hzs)).2 hmem
  refine List.Perm.eq_of_pairwise (fun a b _ _ hab hba => ?_) hys hzs hperm
  exact absurd (Text.eq_of_inOrder hab.1 hba.1) hab.2

/-! ## Below a location -/

theorem Sound.mem_entries_iff (h : t.Sound) (hl : l ≠ []) {e : Entry} :
    (l, e) ∈ t.entries ↔ t.get? l = some e :=
  ⟨get?_of_mem_entries h.nodup hl, mem_entries_of_get? hl⟩

/-- What lies below a location, by its relative location. -/
theorem mem_below_iff (h : t.Sound) {y : Location × Entry} :
    y ∈ t.below l ↔ y.1 ≠ [] ∧ t.get? (l ++ y.1) = some y.2 := by
  obtain ⟨rel, e⟩ := y
  rw [mem_below, and_comm]
  refine and_congr_right fun hrel => h.mem_entries_iff ?_
  simp only [ne_eq, List.append_eq_nil_iff, not_and]
  exact fun _ => hrel

/-- What is listed by a part of its location is listed once, if the part tells the location. -/
theorem nodup_listed (h : t.Sound) {α : Type} {f : Location → Option α}
    (hf : ∀ k k' a, f k = some a → f k' = some a → k = k') (le : α × Entry → α × Entry → Bool) :
    ((t.entries.filterMap fun e => (f e.1).map fun a => (a, e.2)).mergeSort le).Nodup := by
  rw [(List.mergeSort_perm _ _).nodup_iff]
  refine List.Nodup.filterMap ?_ (List.Nodup.of_map _ h.nodup)
  rintro ⟨k, e⟩ ⟨k', e'⟩ ⟨a, y⟩ hb hb'
  simp only [Option.mem_def, Option.map_eq_some_iff, Prod.mk.injEq] at hb hb'
  obtain ⟨_, hk, rfl, rfl⟩ := hb
  obtain ⟨_, hk', rfl, rfl⟩ := hb'
  rw [hf _ _ _ hk hk']

theorem nodup_below (h : t.Sound) (l : Location) : (t.below l).Nodup := by
  refine nodup_listed h (fun k k' rel hk hk' => ?_) _
  obtain ⟨rfl, -⟩ := relative?_eq_some_iff.1 hk
  exact (relative?_eq_some_iff.1 hk').1.symm

theorem pairwise_below (h : t.Sound) (l : Location) : (t.below l).Pairwise Precedes := by
  have htrans : ∀ a b c : Location × Entry, Text.inOrder a.1 b.1 = true →
      Text.inOrder b.1 c.1 = true → Text.inOrder a.1 c.1 = true :=
    fun _ _ _ => Text.inOrder_trans
  have hsorted := List.pairwise_mergeSort htrans (fun a b => Text.inOrder_total a.1 b.1)
    (t.entries.filterMap fun e => (relative? l e.1).map fun rel => (rel, e.2))
  refine (hsorted.and (nodup_below h l)).imp_of_mem fun {a b} ha hb hab => ⟨hab.1, fun hkey => ?_⟩
  have ha := (mem_below_iff h).1 ha
  have hb := (mem_below_iff h).1 hb
  rw [hkey, hb.2] at ha
  exact hab.2 (Prod.ext hkey (Option.some.inj ha.2).symm)

/-! ## Directory by directory -/

/-- In a sound tree the children are what is found one name below. -/
theorem mem_children_iff (h : t.Sound) {n : String} {e : Entry} :
    (n, e) ∈ t.children l ↔ t.get? (l ++ [n]) = some e := by
  rw [mem_children]
  exact h.mem_entries_iff (by simp)

theorem nodup_children (h : t.Sound) (l : Location) : (t.children l).Nodup := by
  refine nodup_listed h (fun k k' n hk hk' => ?_) _
  rw [nameIn?_eq_some_iff.1 hk, nameIn?_eq_some_iff.1 hk']

theorem pairwise_children (h : t.Sound) (l : Location) :
    (t.children l).Pairwise fun a b => a.1 < b.1 := by
  have htrans : ∀ a b c : String × Entry, decide (a.1 ≤ b.1) = true →
      decide (b.1 ≤ c.1) = true → decide (a.1 ≤ c.1) = true := by
    intro a b c hab hbc
    exact decide_eq_true (String.le_trans (of_decide_eq_true hab) (of_decide_eq_true hbc))
  have htotal : ∀ a b : String × Entry, (decide (a.1 ≤ b.1) || decide (b.1 ≤ a.1)) = true := by
    intro a b
    simpa using String.le_total a.1 b.1
  have hsorted := List.pairwise_mergeSort htrans htotal
    (t.entries.filterMap fun e => (nameIn? l e.1).map fun n => (n, e.2))
  refine (hsorted.and (nodup_children h l)).imp_of_mem fun {a b} ha hb hab => ?_
  refine lt_of_le_of_ne (of_decide_eq_true hab.1) fun hname => hab.2 ?_
  have ha := (mem_children_iff h).1 ha
  have hb := (mem_children_iff h).1 hb
  rw [hname, hb] at ha
  exact Prod.ext hname (Option.some.inj ha).symm

/-- An entry of a directory, with what lies below it. -/
def branch (t : FileTree) (l : Location) (c : String × Entry) : List (Location × Entry) :=
  ([c.1], c.2) :: (t.below (l ++ [c.1])).map fun y => (c.1 :: y.1, y.2)

theorem exists_of_mem_branch {c : String × Entry} {y : Location × Entry}
    (hy : y ∈ t.branch l c) : ∃ k e, y = (c.1 :: k, e) := by
  rcases List.mem_cons.1 hy with rfl | hy
  · exact ⟨[], c.2, rfl⟩
  · obtain ⟨z, -, rfl⟩ := List.mem_map.1 hy
    exact ⟨z.1, z.2, rfl⟩

theorem pairwise_branch (h : t.Sound) (l : Location) (c : String × Entry) :
    (t.branch l c).Pairwise Precedes := by
  rw [branch, List.pairwise_cons, List.pairwise_map]
  constructor
  · intro y hy
    obtain ⟨z, hz, rfl⟩ := List.mem_map.1 hy
    have hne := ((mem_below_iff h).1 hz).1
    exact Precedes.cons_iff.2 ⟨rfl, hne.symm⟩
  · exact (pairwise_below h _).imp fun hb => Precedes.cons_iff.2 hb

/-- The branches of all children make up what lies below. -/
theorem mem_flatMap_branch_iff (h : t.Sound) {y : Location × Entry} :
    y ∈ (t.children l).flatMap (t.branch l) ↔ y ∈ t.below l := by
  obtain ⟨rel, e⟩ := y
  simp only [branch, mem_below_iff h, List.mem_flatMap, List.mem_cons, List.mem_map, Prod.exists,
    Prod.mk.injEq]
  constructor
  · rintro ⟨n, x, hn, ⟨rfl, rfl⟩ | ⟨k, x', ⟨hk, he⟩, rfl, rfl⟩⟩
    · exact ⟨by simp, (mem_children_iff h).1 hn⟩
    · refine ⟨by simp, ?_⟩
      rwa [List.append_assoc] at he
  · rintro ⟨hne, he⟩
    obtain ⟨n, k, rfl⟩ := List.exists_cons_of_ne_nil hne
    by_cases hk : k = []
    · subst hk
      exact ⟨n, e, (mem_children_iff h).2 he, .inl ⟨rfl, rfl⟩⟩
    · rw [List.append_cons] at he
      have hd := h.isTree.directory_of_append hk he
      exact ⟨n, .directory, (mem_children_iff h).2 hd, .inr ⟨k, e, ⟨hk, he⟩, rfl, rfl⟩⟩

/-- A listing is made of the branches of the directory, by name. -/
theorem below_eq_flatMap (h : t.Sound) (l : Location) :
    t.below l = (t.children l).flatMap (t.branch l) := by
  refine eq_of_pairwise_precedes (pairwise_below h l) (List.pairwise_flatMap.2 ⟨?_, ?_⟩)
    fun y => (mem_flatMap_branch_iff h).symm
  · exact fun c _ => pairwise_branch h l c
  · refine (pairwise_children h l).imp fun {a b} hab x hx y hy => ?_
    obtain ⟨k, e, rfl⟩ := exists_of_mem_branch hx
    obtain ⟨k', e', rfl⟩ := exists_of_mem_branch hy
    exact precedes_of_lt hab k k' e e'

/-- Nothing lies below a file. -/
theorem below_of_file (h : t.Sound) {b : ByteArray} (hl : t.get? l = some (.file b)) :
    t.below l = [] := by
  refine List.eq_nil_iff_forall_not_mem.2 fun y hy => ?_
  obtain ⟨hne, he⟩ := (mem_below_iff h).1 hy
  have hd := h.isTree.directory_of_append hne he
  rw [hl] at hd
  cases hd

end EndpointStubs.FileTree
