import EndpointStubs.Proofs.Round.Again
import EndpointStubs.Proofs.Round.NewFiles
import EndpointStubs.Proofs.Round.Packages

/-!
# Rounds that commute

Rounds for different packages do not get in each other's way: where both make something, it is a
directory. So each of them can be run on what the other has left, with the same report, and in
either order they leave the union of what each of them leaves alone.

    p.processRound r takes t to u,   p.processRound s takes t to v
      → s takes u, and r takes v, to a tree with (u.get? l).or (v.get? l) at each l
-/

namespace EndpointStubs

namespace FileTree

variable {t u v : FileTree}

/-! ## Unions -/

/-- What one of two trees holds, and the first one's where both hold something. -/
def union (u v : FileTree) : FileTree := { u with entries := u.entries ++ v.entries }

theorem get?_union (u v : FileTree) (l : Location) :
    (u.union v).get? l = (u.get? l).or (v.get? l) := by
  unfold get? union
  split
  · rfl
  · rw [List.find?_append, Option.map_or]

/-- Where both trees hold something, it is the same. -/
structure Agrees (u v : FileTree) : Prop where
  cwd : u.cwd = v.cwd
  eq : ∀ l e e', u.get? l = some e → v.get? l = some e' → e = e'

theorem within_union_left (u v : FileTree) : u.Within (u.union v) :=
  ⟨rfl, fun l e he => by rw [get?_union, he, Option.some_or]⟩

theorem Agrees.within_union_right (h : u.Agrees v) : v.Within (u.union v) := by
  refine ⟨h.cwd, fun l e he => ?_⟩
  rw [get?_union]
  cases hu : u.get? l with
  | none => exact he
  | some e' => rw [Option.some_or, h.eq l e' e hu he]

theorem Agrees.symm (h : u.Agrees v) : v.Agrees u :=
  ⟨h.cwd.symm, fun l e e' he he' => (h.eq l e' e he' he).symm⟩

theorem Agrees.get?_union_comm (h : u.Agrees v) (l : Location) :
    (v.union u).get? l = (u.union v).get? l := by
  rw [get?_union, get?_union]
  cases hu : u.get? l with
  | none => rw [Option.or_none, Option.none_or]
  | some e =>
    cases hv : v.get? l with
    | none => rw [Option.none_or, Option.or_none]
    | some e' => rw [Option.some_or, Option.some_or, h.eq l e e' hu hv]

/-! ## Files of one tree alone -/

/-- Where `u` has a file that `t` does not have, `v` has nothing. -/
def Alone (t u v : FileTree) : Prop :=
  ∀ l b, t.get? l = none → u.get? l = some (.file b) → v.get? l = none

/-- Trees grown from one agree if each has its new files alone. -/
theorem Alone.agrees (hu : t.Within u) (hv : t.Within v) (huv : Alone t u v) (hvu : Alone t v u) :
    u.Agrees v := by
  refine ⟨hu.cwd.trans hv.cwd.symm, fun l e e' he he' => ?_⟩
  cases hold : t.get? l with
  | some x =>
    rw [hu.keeps l x hold] at he
    rw [hv.keeps l x hold] at he'
    exact Option.some.inj (he.symm.trans he')
  | none =>
    cases e with
    | file b =>
      rw [huv l b hold he] at he'
      cases he'
    | directory =>
      cases e' with
      | directory => rfl
      | file b =>
        rw [hvu l b hold he'] at he
        cases he

/-- What both have made together lies between, if the first one has its new files alone. -/
theorem Alone.between (hu : t.Within u) (huv : Alone t u v)
    (hcwd : t.get? t.cwd = some .directory) : Between t u v (u.union v) := by
  refine ⟨hu, within_union_left u v, fun l b hb => ?_, hu.cwd ▸ hu.keeps _ _ hcwd⟩
  cases hold : t.get? l with
  | some e => exact .inl ((hu.keeps l e hold).symm.trans hb)
  | none => exact .inr (huv l b hold hb)

end FileTree

open FileTree (Alone)

/-- What can be repeated adds on another tree what it has added on the first. -/
theorem Session.Repeats.runOn_union {ε α : Type} {s : Session ε α} {w w' x : World} {a : α}
    (hs : Repeats w'.tree (x.tree.union w'.tree) s) (h : s.runOn w = (.ok a, w'))
    (hx : Between w.tree x.tree w'.tree (x.tree.union w'.tree)) :
    ∃ x', s.runOn x = (.ok a, x') ∧ x'.tree.cwd = x.tree.cwd ∧
      ∀ l, x'.tree.get? l = (x.tree.get? l).or (w'.tree.get? l) := by
  obtain ⟨x', hx', hbetween⟩ := hs.replays w w' a h (.refl _) x hx
  have hadds : x.tree.Within x'.tree := by
    have := hs.adds x.tree x (.refl _)
    rwa [hx'] at this
  refine ⟨x', hx', hadds.cwd, fun l => ?_⟩
  rw [← FileTree.get?_union]
  refine Option.ext fun e => ⟨hbetween.right.keeps l e, fun he => ?_⟩
  rw [FileTree.get?_union, Option.or_eq_some_iff] at he
  rcases he with he | ⟨-, he⟩
  · exact hadds.keeps l e he
  · exact hbetween.left.keeps l e he

namespace Processor

variable {p : Processor} {g c : Path} {extension : String} {m n : EndpointModel} {t u v : FileTree}
  {j k : Nat}

/-- The files of a round are alone if none of them is at or above the place of one of the other. -/
theorem Made.alone (hu : p.Made m t u j) (hv : p.Made n t v k)
    (hp : p.emitter = .ofRoots g c extension)
    (hdown : ∀ root ∈ [g, c], Path.Component.parent ∉ root.components)
    (hapart : ∀ x ∈ p.files m, ∀ y ∈ p.files n, ¬x.2.place t.cwd <+: y.2.place t.cwd) :
    Alone t u v := by
  intro l b hold hb
  obtain ⟨x, hx, rfl⟩ := (hu.file_iff l).1 ⟨hold, b, hb⟩
  have hx := List.mem_of_mem_take hx
  refine Option.eq_none_iff_forall_ne_some.2 fun e he => ?_
  cases e with
  | file b' =>
    obtain ⟨y, hy, hxy⟩ := (hv.file_iff _).1 ⟨hold, b', he⟩
    exact hapart x hx y (List.mem_of_mem_take hy) (hxy ▸ List.prefix_refl _)
  | directory =>
    obtain ⟨y, hy, hway⟩ := hv.directory _ hold he
    have hy := List.mem_of_mem_take hy
    obtain ⟨root, hroot, names, -, -, hcomp⟩ := below_of_mem_files hp hy
    obtain ⟨rel, -, hrel⟩ := Path.exists_of_mem_way (hdown root hroot) hcomp hway
    exact hapart x hx y hy (hrel ▸ List.prefix_append _ _)

/-- Rounds for different packages commute, if files have an extension without slash and the roots do
not go up and lie apart. Rounds that succeed on the same tree succeed one after the other as well,
in both orders, and leave the union of what they leave alone. -/
theorem processRound_comm {w w₁ w₂ : World} {r s : Round} {a b : Report}
    (hp : p.emitter = .ofRoots g c extension) (hne : extension ≠ "")
    (hslash : '/' ∉ extension.toList)
    (hdown : ∀ root ∈ [g, c], Path.Component.parent ∉ root.components)
    (hgc : ¬g.place w.tree.cwd <+: c.place w.tree.cwd)
    (hcg : ¬c.place w.tree.cwd <+: g.place w.tree.cwd)
    (hcwd : w.tree.get? w.tree.cwd = some .directory)
    (hpackages : (scan r.declarations).packageName ≠ (scan s.declarations).packageName)
    (hr : (p.processRound r).runOn w = (.ok a, w₁))
    (hs : (p.processRound s).runOn w = (.ok b, w₂)) :
    ∃ v v', (p.processRound s).runOn w₁ = (.ok b, v) ∧ (p.processRound r).runOn w₂ = (.ok a, v') ∧
      v'.tree.cwd = v.tree.cwd ∧ ∀ l, v'.tree.get? l = v.tree.get? l ∧
        v.tree.get? l = (w₁.tree.get? l).or (w₂.tree.get? l) := by
  have hround := processed_processRound hp r w
  have hround' := processed_processRound hp s w
  rw [hr] at hround
  rw [hs] at hround'
  obtain ⟨j, hj, -⟩ := hround.exists_made
  obtain ⟨k, hk, -⟩ := hround'.exists_made
  have halone : Alone w.tree w₁.tree w₂.tree := hj.alone hk hp hdown fun x hx y hy =>
    not_isPrefix_of_packages hp hne hslash hgc hcg hpackages hx hy
  have halone' : Alone w.tree w₂.tree w₁.tree := hk.alone hj hp hdown fun x hx y hy =>
    not_isPrefix_of_packages hp hne hslash hgc hcg hpackages.symm hx hy
  have hagrees := Alone.agrees hround.within hround'.within halone halone'
  obtain ⟨v, hv, hvcwd, hget⟩ :=
    (repeats_processRound hagrees.within_union_right hp hdown s).runOn_union hs
      (Alone.between hround.within halone hcwd)
  obtain ⟨v', hv', hvcwd', hget'⟩ :=
    (repeats_processRound hagrees.symm.within_union_right hp hdown r).runOn_union hr
      (Alone.between hround'.within halone' hcwd)
  refine ⟨v, v', hv, hv', ?_, fun l => ⟨?_, hget l⟩⟩
  · rw [hvcwd, hvcwd', hagrees.cwd]
  · rw [hget, hget', ← FileTree.get?_union, ← FileTree.get?_union, hagrees.get?_union_comm]

/-- One package lies in the other, and has the name of a stub in it. -/
theorem processRound_comm_nested :
    let p : Processor := ⟨{}, .ofRoots ⟨"out"⟩ ⟨"mirror"⟩ "rs", .lenient⟩
    let w : World := { tree := ⟨[(["w"], .directory)], ["w"]⟩ }
    let r : Round :=
      .ofDeclarations [{ name := "com.acme", markers := [{ kind := .restController }] }]
    let s : Round :=
      .ofDeclarations [{ name := "com.acmeStub.Order", markers := [{ kind := .restController }] }]
    ∃ a b w₁ w₂ v v', (p.processRound r).runOn w = (.ok a, w₁) ∧
      (p.processRound s).runOn w = (.ok b, w₂) ∧ (p.processRound s).runOn w₁ = (.ok b, v) ∧
      (p.processRound r).runOn w₂ = (.ok a, v') ∧ v'.tree.cwd = v.tree.cwd ∧
      ∀ l, v'.tree.get? l = v.tree.get? l ∧
        v.tree.get? l = (w₁.tree.get? l).or (w₂.tree.get? l) := by
  intro p w r s
  have hokr : ((p.processRound r).runOn w).1.isOk = true := by decide +kernel
  have hoks : ((p.processRound s).runOn w).1.isOk = true := by decide +kernel
  generalize hr : (p.processRound r).runOn w = x at hokr
  generalize hs : (p.processRound s).runOn w = y at hoks
  obtain ⟨_ | a, w₁⟩ := x
  · cases hokr
  · obtain ⟨_ | b, w₂⟩ := y
    · cases hoks
    · obtain ⟨v, v', h⟩ := processRound_comm rfl (by decide) (by decide) (by decide +kernel)
        (by decide +kernel) (by decide +kernel) (by decide +kernel) (by decide +kernel) hr hs
      exact ⟨a, b, w₁, w₂, v, v', rfl, rfl, h⟩

-- Without extension the stub of the one package is where the other one has its directory.
example :
    let p : Processor := ⟨{}, .ofRoots ⟨"out"⟩ ⟨"mirror"⟩ "", .lenient⟩
    let w : World := { tree := ⟨[(["w"], .directory)], ["w"]⟩ }
    let r : Round :=
      .ofDeclarations [{ name := "com.acme", markers := [{ kind := .restController }] }]
    let s : Round :=
      .ofDeclarations [{ name := "com.acmeStub.Order", markers := [{ kind := .restController }] }]
    ((p.processRound r).runOn w).1.isOk = true ∧ ((p.processRound s).runOn w).1.isOk = true ∧
      ((p.processRound s).runOn ((p.processRound r).runOn w).2).1.isOk = false := by
  decide +kernel

end Processor

end EndpointStubs
