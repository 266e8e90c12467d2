import EndpointStubs.Proofs.FileTree.Growth
import EndpointStubs.Proofs.Path.Derived

/-!
# Places

In a tree without links a path leads to the same place in every tree in which it leads anywhere:
the place is found from the components alone, `..` going up by one. The way of a path are the
places of the paths above it.

    t.resolve p = .ok l → l = p.place t.cwd
    q ∈ p.parents → q.place cwd ∈ p.way cwd                       for q that is not empty
-/

namespace EndpointStubs

namespace Path

def Component.move (l : Location) : Component → Location
  | root => []
  | current => l
  | parent => l.dropLast
  | normal name => l ++ [name]

/-- Where components lead from a location, one after the other. -/
def walk (l : Location) (cs : List Component) : Location := cs.foldl Component.move l

/-- The places between the start of a walk and its end. -/
def passed (l : Location) : List Component → List Location
  | [] => []
  | [_] => []
  | c :: d :: cs => c.move l :: passed (c.move l) (d :: cs)

/-- The place of a path, seen from a working directory. -/
def place (cwd : Location) (p : Path) : Location := walk cwd p.components

/-- The places of the paths above a path. -/
def way (cwd : Location) (p : Path) : List Location := passed cwd p.components

@[simp] theorem walk_nil (l : Location) : walk l [] = l := rfl

@[simp] theorem walk_cons (l : Location) (c : Component) (cs : List Component) :
    walk l (c :: cs) = walk (c.move l) cs := rfl

@[simp] theorem walk_append (l : Location) (a b : List Component) :
    walk l (a ++ b) = walk (walk l a) b := by
  simp [walk]

theorem walk_normal (l : Location) (names : List String) :
    walk l (names.map .normal) = l ++ names := by
  induction names generalizing l with
  | nil => simp
  | cons n names ih => simp [ih, Component.move]

theorem walk_head (cwd : Location) (h : Head) :
    walk cwd h.components = if h = .root then [] else cwd := by
  cases h <;> rfl

/-- What is passed is where a proper front part leads. -/
theorem mem_passed {l k : Location} {cs : List Component} :
    k ∈ passed l cs ↔ ∃ a b, cs = a ++ b ∧ a ≠ [] ∧ b ≠ [] ∧ k = walk l a := by
  induction cs generalizing l with
  | nil => simp [passed]
  | cons c cs ih =>
    cases cs with
    | nil =>
      simp only [passed, List.not_mem_nil, false_iff]
      rintro ⟨_ | ⟨x, a⟩, b, hab, ha, hb, -⟩
      · exact ha rfl
      · simp only [List.cons_append, List.cons.injEq, List.nil_eq, List.append_eq_nil_iff] at hab
        exact hb hab.2.2
    | cons d cs =>
      rw [passed, List.mem_cons, ih]
      constructor
      · rintro (rfl | ⟨a, b, hab, ha, hb, rfl⟩)
        · exact ⟨[c], d :: cs, rfl, by simp, by simp, rfl⟩
        · exact ⟨c :: a, b, by rw [hab, List.cons_append], by simp, hb, rfl⟩
      · rintro ⟨_ | ⟨x, a⟩, b, hab, ha, hb, rfl⟩
        · exact absurd rfl ha
        · simp only [List.cons_append, List.cons.injEq] at hab
          obtain ⟨rfl, hab⟩ := hab
          by_cases hn : a = []
          · left
            simp [hn]
          · exact .inr ⟨a, b, hab, hn, hb, rfl⟩

/-- The place of a path above another one is on the way of that one. -/
theorem place_mem_way {cwd : Location} {p q : Path} (h : q ∈ p.parents) (hq : q.components ≠ []) :
    q.place cwd ∈ p.way cwd := by
  obtain ⟨⟨c, cs, hc⟩, -⟩ := of_mem_parents h
  exact mem_passed.2 ⟨q.components, c :: cs, hc, hq, by simp, rfl⟩

/-! ## Below two places -/

section

variable {g m : Location}

/-- Nothing lies below both of two places of which neither is above the other. -/
theorem append_ne_append (hg : ¬g <+: m) (hm : ¬m <+: g) (rel rel' : Location) :
    g ++ rel ≠ m ++ rel' := by
  intro h
  have hg' : g <+: m ++ rel' := h ▸ List.prefix_append _ _
  rcases List.prefix_or_prefix_of_prefix hg' (List.prefix_append m rel') with h | h
  · exact hg h
  · exact hm h

theorem not_append_isPrefix (hg : ¬g <+: m) (hm : ¬m <+: g) (rel rel' : Location) :
    ¬g ++ rel <+: m ++ rel' := by
  rintro ⟨z, hz⟩
  rw [List.append_assoc] at hz
  exact append_ne_append hg hm _ _ hz

end

end Path

namespace FileTree

open EndpointStubs.Path (walk bodyComponents isFiller)

variable {t u : FileTree} {p : Path} {l k : Location}

/-! ## Where accesses lead -/

theorem eq_walk_of_step {piece : List Char} (h : t.step l piece = .ok k) :
    k = walk l (bodyComponents [piece]) := by
  rw [step_of_directory (directory_of_step h)] at h
  by_cases hf : isFiller piece = true
  · rw [if_pos hf] at h
    rw [Path.bodyComponents_cons_of_isFiller hf]
    exact (Except.ok.inj h).symm
  · rw [Bool.not_eq_true] at hf
    rw [if_neg (by simp [hf])] at h
    rw [Path.bodyComponents_cons hf]
    by_cases hp : piece = ['.', '.']
    · rw [if_pos hp] at h
      subst hp
      exact (Except.ok.inj h).symm
    · rw [if_neg hp] at h
      split at h
      · cases h
      · simp only [Path.pieceComponent, hp, if_false]
        exact (Except.ok.inj h).symm

theorem eq_walk_of_follow {b : List (List Char)} (h : t.follow l b = .ok k) :
    k = walk l (bodyComponents b) := by
  induction b generalizing l with
  | nil => exact (Except.ok.inj h).symm
  | cons x b ih =>
    obtain ⟨m, hs, hm⟩ := follow_cons_eq_ok_iff.1 h
    rw [ih hm, eq_walk_of_step hs, ← Path.walk_append, ← Path.bodyComponents_append,
      List.singleton_append]

theorem walk_start (t : FileTree) (p : Path) (cs : List Path.Component) :
    walk (t.start p) cs = walk t.cwd (p.head.components ++ cs) := by
  rw [Path.walk_append, Path.walk_head]
  simp [start, Path.isAbsolute]

theorem eq_place_of_resolve (h : t.resolve p = .ok l) : l = p.place t.cwd := by
  rw [eq_walk_of_follow (resolve_eq_ok_iff.1 h).2, walk_start]
  rfl

end FileTree

end EndpointStubs
