import EndpointStubs.FileTree.Basic
import EndpointStubs.Text.Order

/-!
# What lies below a location

The entries below a location with their names from there, in order: names are compared one
by one from the top, so a directory's entries stand together.

    (rel, e) ∈ t.below l    ↔ t.entries holds e at l ++ rel and rel ≠ []
    (n, e)   ∈ t.children l ↔ t.entries holds e at l ++ [n]
-/

namespace EndpointStubs.FileTree

/-- The names that lead from `l` to `k`, if `k` is strictly below. -/
def relative? (l k : Location) : Option Location :=
  if l.isPrefixOf k && l.length < k.length then some (k.drop l.length) else none

theorem relative?_eq_some_iff {l k rel : Location} :
    relative? l k = some rel ↔ k = l ++ rel ∧ rel ≠ [] := by
  simp only [relative?, Option.ite_none_right_eq_some, Bool.and_eq_true,
    List.isPrefixOf_iff_prefix, decide_eq_true_eq, Option.some.injEq]
  constructor
  · rintro ⟨⟨⟨r, rfl⟩, hlt⟩, rfl⟩
    rw [List.drop_left]
    exact ⟨rfl, fun hr => by simp [hr] at hlt⟩
  · rintro ⟨rfl, hr⟩
    have := List.length_pos_iff.2 hr
    refine ⟨⟨List.prefix_append l rel, ?_⟩, List.drop_left⟩
    rw [List.length_append]
    omega

/-- Everything strictly below a location, in order. -/
def below (t : FileTree) (l : Location) : List (Location × Entry) :=
  (t.entries.filterMap fun e => (relative? l e.1).map fun rel => (rel, e.2)).mergeSort
    fun a b => Text.inOrder a.1 b.1

theorem mem_below {t : FileTree} {l rel : Location} {e : Entry} :
    (rel, e) ∈ t.below l ↔ (l ++ rel, e) ∈ t.entries ∧ rel ≠ [] := by
  simp only [below, List.mem_mergeSort, List.mem_filterMap, Option.map_eq_some_iff,
    relative?_eq_some_iff, Prod.mk.injEq]
  constructor
  · rintro ⟨⟨k, x⟩, hk, _, ⟨rfl, hr⟩, rfl, rfl⟩
    exact ⟨hk, hr⟩
  · rintro ⟨h, hr⟩
    exact ⟨_, h, rel, ⟨rfl, hr⟩, rfl, rfl⟩

/-! ## One directory -/

/-- The name of `k` in `l`, if it lies right there. -/
def nameIn? (l k : Location) : Option String :=
  match relative? l k with
  | some [n] => some n
  | _ => none

/-- What lies right below a location, in the order of the names. -/
def children (t : FileTree) (l : Location) : List (String × Entry) :=
  (t.entries.filterMap fun e => (nameIn? l e.1).map fun n => (n, e.2)).mergeSort
    fun a b => decide (a.1 ≤ b.1)

/-- How much lies strictly below a location. -/
def countBelow (t : FileTree) (l : Location) : Nat :=
  t.entries.countP fun e => (relative? l e.1).isSome

theorem nameIn?_eq_some_iff {l k : Location} {n : String} :
    nameIn? l k = some n ↔ k = l ++ [n] := by
  unfold nameIn?
  split
  · rename_i m hm
    obtain ⟨rfl, -⟩ := relative?_eq_some_iff.1 hm
    simp [eq_comm]
  · rename_i hno
    refine ⟨nofun, fun h => ?_⟩
    exact absurd (relative?_eq_some_iff.2 ⟨h, List.cons_ne_nil n []⟩) (hno n)

/-- The children are the entries one name below. -/
theorem mem_children {t : FileTree} {l : Location} {n : String} {e : Entry} :
    (n, e) ∈ t.children l ↔ (l ++ [n], e) ∈ t.entries := by
  simp only [children, List.mem_mergeSort, List.mem_filterMap, Option.map_eq_some_iff,
    nameIn?_eq_some_iff, Prod.mk.injEq]
  constructor
  · rintro ⟨⟨k, x⟩, hk, m, rfl, rfl, rfl⟩
    exact hk
  · exact fun h => ⟨_, h, n, rfl, rfl, rfl⟩

/-- Less lies below what lies in a directory than below the directory. -/
theorem countBelow_lt {t : FileTree} {l : Location} {n : String} {e : Entry}
    (h : (n, e) ∈ t.children l) : t.countBelow (l ++ [n]) < t.countBelow l := by
  have hbelow : ∀ x : Location × Entry, (relative? (l ++ [n]) x.1).isSome = true →
      (relative? l x.1).isSome = true := by
    intro x hx
    obtain ⟨rel, hrel⟩ := Option.isSome_iff_exists.1 hx
    obtain ⟨hk, -⟩ := relative?_eq_some_iff.1 hrel
    rw [List.append_assoc] at hk
    rw [relative?_eq_some_iff.2 ⟨hk, by simp⟩]
    rfl
  have hhere : (relative? l (l ++ [n])).isSome = true := by
    rw [relative?_eq_some_iff.2 ⟨rfl, List.cons_ne_nil n []⟩]
    rfl
  have hnot : (relative? (l ++ [n]) (l ++ [n])).isSome = false := by
    simp [relative?]
  obtain ⟨before, after, hsplit⟩ := List.append_of_mem (mem_children.1 h)
  have hb := List.countP_mono_left (l := before) fun x _ => hbelow x
  have ha := List.countP_mono_left (l := after) fun x _ => hbelow x
  unfold countBelow
  rw [hsplit, List.countP_append, List.countP_append, List.countP_cons, List.countP_cons, hhere,
    hnot]
  simp only [Bool.false_eq_true, if_false, if_true]
  omega

/-! ## Shown names -/

/-- The name of an entry below a location; a directory's name ends in a slash. -/
def shownName (e : Location × Entry) : String :=
  Text.joinStrings "/" e.1 ++ (match e.2 with | .directory => "/" | .file _ => "")

/-- The names of all entries below the working directory, in order. -/
def listing (t : FileTree) : List String :=
  ((t.below t.cwd).map shownName).mergeSort fun a b => decide (a ≤ b)

end EndpointStubs.FileTree
