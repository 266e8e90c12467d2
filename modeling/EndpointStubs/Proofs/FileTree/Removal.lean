import EndpointStubs.Proofs.FileTree.Refusal

/-!
# Removed subtrees

A tree without some subtrees holds the old entries outside of them and nothing else. What a path
leads to in the smaller tree, it led to before.

    t.Without ls u → (u.get? k = some e ↔ t.get? k = some e ∧ no l of ls is at or above k)
    t.Without ls u → u.lookup p = .ok x → t.lookup p = .ok x
-/

namespace EndpointStubs.FileTree

variable {t u v : FileTree} {l k : Location} {ls ls' : List Location}

theorem get?_erase (hk : ¬l <+: k) : (t.erase l).get? k = t.get? k := by
  have hpre : l.isPrefixOf k = false := by
    rw [← Bool.not_eq_true, List.isPrefixOf_iff_prefix]
    exact hk
  unfold get? erase
  split
  · rfl
  · rw [List.find?_filter]
    congr 2
    funext x
    by_cases hx : x.1 = k
    · simp [hx, hpre]
    · simp [hx]

theorem get?_erase_of_isPrefix (hl : l ≠ []) (hk : l <+: k) : (t.erase l).get? k = none := by
  have hne : k ≠ [] := fun h => hl (List.prefix_nil.1 (h ▸ hk))
  unfold get? erase
  rw [if_neg hne, Option.map_eq_none_iff, List.find?_eq_none]
  intro x hx hxk
  obtain rfl : x.1 = k := of_decide_eq_true hxk
  simp [List.isPrefixOf_iff_prefix.2 hk] at hx

/-- `u` is `t` without what is at or below the locations. -/
structure Without (t : FileTree) (ls : List Location) (u : FileTree) : Prop where
  cwd : u.cwd = t.cwd
  get?_iff : ∀ k e, u.get? k = some e ↔ t.get? k = some e ∧ ∀ l ∈ ls, ¬l <+: k

theorem Without.refl (t : FileTree) : t.Without [] t := ⟨rfl, by simp⟩

theorem Without.within (h : t.Without ls u) : u.Within t :=
  ⟨h.cwd.symm, fun k e he => ((h.get?_iff k e).1 he).1⟩

theorem Without.get?_of_apart (h : t.Without ls u) (hk : ∀ l ∈ ls, ¬l <+: k) :
    u.get? k = t.get? k :=
  Option.ext fun e => (h.get?_iff k e).trans (and_iff_left hk)

theorem Without.get?_eq_none (h : t.Without ls u) (hl : l ∈ ls) (hk : l <+: k) :
    u.get? k = none := by
  refine Option.eq_none_iff_forall_ne_some.2 fun e he => ?_
  exact ((h.get?_iff k e).1 he).2 l hl hk

theorem without_erase (hl : l ≠ []) (t : FileTree) : t.Without [l] (t.erase l) := by
  refine ⟨rfl, fun k e => ?_⟩
  by_cases hk : l <+: k
  · simp [get?_erase_of_isPrefix hl hk, hk]
  · simp [get?_erase hk, hk]

theorem Without.trans (h : t.Without ls u) (k : u.Without ls' v) : t.Without (ls ++ ls') v := by
  refine ⟨k.cwd.trans h.cwd, fun l e => ?_⟩
  rw [k.get?_iff, h.get?_iff, and_assoc]
  simp only [List.mem_append, or_imp, forall_and]

/-- What was there and is gone is at or below one of the locations. -/
theorem Without.exists_of_gone (h : t.Without ls u) (hl : t.get? l ≠ none)
    (hu : u.get? l = none) : ∃ k ∈ ls, k <+: l := by
  obtain ⟨e, he⟩ := Option.ne_none_iff_exists'.1 hl
  refine Classical.byContradiction fun hn => ?_
  have : u.get? l = some e := (h.get?_iff l e).2 ⟨he, fun k hk hkl => hn ⟨k, hk, hkl⟩⟩
  rw [hu] at this
  cases this

/-- What was there and is gone takes with it all that is below. -/
theorem Without.append_gone (h : t.Without ls u) (hl : t.get? l ≠ none) (hu : u.get? l = none) :
    t.Without (ls ++ [l]) u := by
  obtain ⟨k, hk, hkl⟩ := h.exists_of_gone hl hu
  refine ⟨h.cwd, fun m e => ?_⟩
  rw [h.get?_iff]
  refine and_congr_right fun _ => ⟨fun hm x hx => ?_, fun hm x hx => hm x (List.mem_append_left _ hx)⟩
  rcases List.mem_append.1 hx with hx | hx
  · exact hm x hx
  · obtain rfl := List.mem_singleton.1 hx
    exact fun hxm => hm k hk (hkl.trans hxm)

/-- A path that led to something that is gone leads nowhere. -/
theorem Without.pathExists_eq_false (h : t.Without ls u) {p : Path}
    (hp : ∀ l e, t.lookup p = .ok (l, e) → l ∈ ls) : u.pathExists p = false := by
  rw [← Bool.not_eq_true]
  intro hex
  obtain ⟨l, e, hl⟩ := pathExists_iff.1 hex
  have hmem := hp l e (h.within.lookup hl)
  rw [lookup_eq_ok_iff, h.get?_eq_none hmem (List.prefix_refl l)] at hl
  cases hl.2

end EndpointStubs.FileTree
