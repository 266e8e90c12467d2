import EndpointStubs.Proofs.FileTree.Reach
import EndpointStubs.Proofs.Round.NewFiles
import EndpointStubs.Proofs.Round.Places
import EndpointStubs.Proofs.Round.Settings

/-!
# Collisions within a round

A round collides at a file whose place is taken: by an old entry, by an earlier file of the round,
or by a directory on the way to one of its files. Roots that lead to the same directory make every
round fail at its second file; they are only refused if they have the same components, or if they
are there already. Roots that do not go up and lie apart never collide where neither is there.

    result = .error (.emit (.collision q)) ↔ … ∧ (∃ l, u.resolve q = .ok l) ∧ p.Taken m t k q
                                                              for the k-th file q, u after k files
-/

namespace EndpointStubs.Processor

variable {p : Processor} {m : EndpointModel} {generated counterpart : Path} {extension : String}

/-! ## What is in the way of a file -/

/-- Something was at the place of the path, or the first `k` files of the round and the directories
on the way to them and to the next file have put something there. -/
def Taken (p : Processor) (m : EndpointModel) (t : FileTree) (k : Nat) (q : Path) : Prop :=
  t.get? (q.place t.cwd) ≠ none ∨
  (∃ x ∈ (p.files m).take k, q.place t.cwd = x.2.place t.cwd) ∨
  ∃ x ∈ (p.files m).take (k + 1), q.place t.cwd ∈ x.2.way t.cwd

variable {t u : FileTree} {k : Nat} {kind : ArtifactKind} {q : Path}

/-- The next file is there already if its path can be followed and its place is taken. -/
theorem Made.pathExists_iff (h : p.Made m t u k) (hu : t.Within u)
    (hq : (p.files m)[k]? = some (kind, q)) :
    u.pathExists q = true ↔ (∃ l, u.resolve q = .ok l) ∧ p.Taken m t k q := by
  constructor
  · intro hex
    obtain ⟨l, e, hl⟩ := FileTree.pathExists_iff.1 hex
    obtain ⟨hr, he⟩ := FileTree.lookup_eq_ok_iff.1 hl
    refine ⟨⟨l, hr⟩, ?_⟩
    have hplace := FileTree.eq_place_of_resolve hr
    rw [hu.cwd] at hplace
    rw [hplace] at he
    by_cases hn : t.get? (q.place t.cwd) = none
    · right
      cases e with
      | file b => exact .inl ((h.file_iff _).1 ⟨hn, b, he⟩)
      | directory => exact .inr (h.directory _ hn he)
    · exact .inl hn
  · rintro ⟨⟨l, hr⟩, htaken⟩
    have hplace := FileTree.eq_place_of_resolve hr
    rw [hu.cwd] at hplace
    have hthere : ∃ e, u.get? (q.place t.cwd) = some e := by
      rcases htaken with hold | ⟨x, hx, hxq⟩ | ⟨x, hx, hxq⟩
      · obtain ⟨e, he⟩ := Option.ne_none_iff_exists'.1 hold
        exact ⟨e, hu.keeps _ _ he⟩
      · obtain ⟨text, -, hl⟩ := h.whole x hx
        exact ⟨_, hxq ▸ (FileTree.lookup_eq_ok_iff.1 hl).2⟩
      · have hres : ∃ l, u.resolve x.2 = .ok l := by
          rw [List.take_add_one, hq, List.mem_append] at hx
          rcases hx with hx | hx
          · obtain ⟨text, -, hl⟩ := h.whole x hx
            exact ⟨_, (FileTree.lookup_eq_ok_iff.1 hl).1⟩
          · obtain rfl := List.mem_singleton.1 hx
            exact ⟨l, hr⟩
        obtain ⟨l', hl'⟩ := hres
        rw [← hu.cwd] at hxq ⊢
        exact ⟨_, FileTree.directory_of_mem_way hl' hxq⟩
    obtain ⟨e, he⟩ := hthere
    exact FileTree.pathExists_iff.2 ⟨l, e, FileTree.lookup_eq_ok_iff.2 ⟨hr, hplace ▸ he⟩⟩

theorem rel_of_mem_take {α : Type} {R : α → α → Prop} {xs : List α} (h : xs.Pairwise R) {x y : α}
    (hx : x ∈ xs.take k) (hy : xs[k]? = some y) : R x y := by
  rw [← List.take_append_drop k xs, List.pairwise_append] at h
  refine h.2.2 x hx y ?_
  rw [← List.head?_drop] at hy
  exact List.mem_of_mem_head? hy

/-- Where nothing is at the roots, in a tree, only another file of the round can be in the way, as
long as the roots do not go up: its place is below that of the next file, or the same. -/
theorem exists_below_of_taken (hu : t.Within u)
    (hp : p.emitter = .ofRoots generated counterpart extension) (ht : t.IsTree)
    (hroots : ∀ root ∈ [generated, counterpart], root.Plain ∧ t.pathExists root = false)
    (hq : (p.files m)[k]? = some (kind, q)) {l : Location} (hr : u.resolve q = .ok l)
    (htaken : p.Taken m t k q) :
    ∃ x ∈ (p.files m).take k, q.place t.cwd <+: x.2.place t.cwd := by
  rcases htaken with hold | ⟨x, hx, hxq⟩ | ⟨x, hx, hxq⟩
  · obtain ⟨root, hroot, names, hnames, htext, hcomp⟩ :=
      below_of_mem_files hp (List.mem_of_getElem? hq)
    obtain ⟨hplain, hnone⟩ := hroots root hroot
    have hplace : q.place t.cwd = root.place t.cwd ++ names := by
      rw [Path.place, hcomp, Path.walk_append, Path.walk_normal]
      rfl
    obtain ⟨e, he⟩ := Option.ne_none_iff_exists'.1 hold
    rw [hplace] at he
    have hthere : t.get? (root.place t.cwd) ≠ none := by
      rw [ht.directory_of_append hnames he]
      simp
    rw [FileTree.pathExists_of_resolve_below ht hu hplain hnames hr htext hcomp hthere] at hnone
    cases hnone
  · exact ⟨x, hx, hxq ▸ List.prefix_refl _⟩
  · obtain ⟨root, hroot, names, -, -, hcomp⟩ :=
      below_of_mem_files hp (List.mem_of_mem_take hx)
    obtain ⟨rel, hrel, hplace⟩ := Path.exists_of_mem_way (hroots root hroot).1.down hcomp hxq
    rw [List.take_add_one, hq, List.mem_append] at hx
    rcases hx with hx | hx
    · exact ⟨x, hx, hplace ▸ List.prefix_append _ _⟩
    · obtain rfl := List.mem_singleton.1 hx
      exact absurd (List.self_eq_append_right.1 hplace) hrel

/-- Of roots that lead to the same place, the second one gets no file. -/
theorem Made.le_one (h : p.Made m t u k)
    (hp : p.emitter = .ofRoots generated counterpart extension)
    (hsame : generated.place t.cwd = counterpart.place t.cwd) : k ≤ 1 := by
  cases ha : p.emitter.targets (ArtifactKind.stubBase.nameIn m) with
  | error err =>
    have hbase : p.filesFor m .stubBase = [] := filesFor_of_error ha
    have hstub : p.filesFor m .stub = [] :=
      (List.pairwise_cons.1 (downward_all hp m)).1 .stub (by simp) hbase
    have hnil : p.files m = [] := by simp [files, ArtifactKind.all, hbase, hstub]
    have hle := h.le
    rw [hnil] at hle
    exact Nat.le_trans hle (Nat.zero_le 1)
  | ok a =>
    have hfiles : p.files m = (.stubBase, a.canonical) :: (.stubBase, a.counterpart) ::
        [ArtifactKind.stub].flatMap (p.filesFor m) := flatMap_filesFor ha
    rw [hp] at ha
    obtain ⟨hc, hm⟩ := Emitter.place_of_targets t.cwd ha
    refine Nat.le_of_not_lt fun hk => ?_
    obtain ⟨j, rfl⟩ : ∃ j, k = j + 2 := ⟨k - 2, by omega⟩
    have hnodup := h.nodup
    rw [hfiles, List.take_succ_cons, List.take_succ_cons, List.map_cons, List.map_cons] at hnodup
    refine (List.nodup_cons.1 hnodup).1 ?_
    rw [hc, hm, hsame]
    exact List.mem_cons_self

/-- However a round ends, it collides exactly if the next file is to be written, its path can be
followed and its place is taken. -/
theorem Processed.exists_taken {r : Round} {result : Except ProcessError Report}
    (h : p.Processed r t result u) :
    ∃ k, p.Made (scan r.declarations) t u k ∧ (r.isEmpty = false → (result.isOk ↔ k = 4)) ∧
      ∀ q, result = .error (.emit (.collision q)) ↔
        (r.isEmpty = false ∧ (scan r.declarations).check p.policy = .ok ()) ∧
        (∃ kind text, (p.files (scan r.declarations))[k]? = some (kind, q) ∧
          p.overrides.text (scan r.declarations) kind = .ok text) ∧
        q.namesDirectory = false ∧ (∃ l, u.resolve q = .ok l) ∧
        p.Taken (scan r.declarations) t k q := by
  obtain ⟨k, hk, hok, hcollision⟩ := h.exists_made
  refine ⟨k, hk, hok, fun q => ?_⟩
  rw [hcollision]
  constructor
  · rintro ⟨hr, kind, text, hq, htext, hn, hex⟩
    obtain ⟨hl, htaken⟩ := (hk.pathExists_iff h.within hq).1 hex
    exact ⟨hr, ⟨kind, text, hq, htext⟩, hn, hl, htaken⟩
  · rintro ⟨hr, ⟨kind, text, hq, htext⟩, hn, hl, htaken⟩
    exact ⟨hr, kind, text, hq, htext, hn, (hk.pathExists_iff h.within hq).2 ⟨hl, htaken⟩⟩

/-- When a round of a processor collides in a tree that has neither root: at the next file whose
path can be followed and whose place is taken. No round succeeds for roots that lead to the same
place, of which only those with the same components are refused. Roots that do not go up collide
only where one of them leads below the other. -/
theorem collides_iff {c : Config} {p : Processor} {w w' : World}
    (h : (ofConfig c).runOn w = (.ok p, w'))
    (hg : w.tree.pathExists c.generatedRoot = false)
    (hc : w.tree.pathExists c.counterpartRoot = false) (r : Round) :
    let m := scan r.declarations
    let t := w.tree
    let result := ((p.processRound r).runOn w').1
    let u := ((p.processRound r).runOn w').2.tree
    (sameDirectory t c.generatedRoot c.counterpartRoot =
      decide (c.generatedRoot.components = c.counterpartRoot.components)) ∧
    c.generatedRoot.components ≠ c.counterpartRoot.components ∧
    ∃ k, p.Made m t u k ∧
      (∀ q, result = .error (.emit (.collision q)) ↔
        (r.isEmpty = false ∧ m.check c.policy = .ok ()) ∧
        (∃ kind text, (p.files m)[k]? = some (kind, q) ∧ p.overrides.text m kind = .ok text) ∧
        q.namesDirectory = false ∧ (∃ l, u.resolve q = .ok l) ∧ p.Taken m t k q) ∧
      (r.isEmpty = false → c.generatedRoot.place t.cwd = c.counterpartRoot.place t.cwd →
        result.isOk = false ∧ k ≤ 1) ∧
      (t.IsTree → c.generatedRoot.Plain → c.counterpartRoot.Plain →
        (∀ q, result = .error (.emit (.collision q)) →
          ∃ x ∈ (p.files m).take k, q.place t.cwd <+: x.2.place t.cwd) ∧
        (¬c.generatedRoot.place t.cwd <+: c.counterpartRoot.place t.cwd →
          ¬c.counterpartRoot.place t.cwd <+: c.generatedRoot.place t.cwd →
          ∀ q, result ≠ .error (.emit (.collision q)))) := by
  intro m t result u
  obtain ⟨hp, hpolicy, htree, hsame⟩ := of_runOn_ofConfig h
  have hround : Processed p r t result u := by
    have := processed_processRound hp r w'
    rwa [htree] at this
  obtain ⟨k, hk, hok, hiff⟩ := hround.exists_taken
  rw [hpolicy] at hiff
  have hcheck := sameDirectory_of_not_pathExists (q := c.counterpartRoot) hg
  refine ⟨hcheck, ?_, k, hk, hiff, ?_, ?_⟩
  · intro he
    simp [sameDirectory, Path.same, he] at hsame
  · intro hr hplace
    have hle := hk.le_one hp hplace
    refine ⟨?_, hle⟩
    rw [← Bool.not_eq_true]
    intro hres
    have := (hok hr).1 hres
    omega
  · intro ht hgp hcp
    have hroots : ∀ root ∈ [c.generatedRoot, c.counterpartRoot],
        root.Plain ∧ t.pathExists root = false := by
      simpa using ⟨⟨hgp, hg⟩, ⟨hcp, hc⟩⟩
    constructor
    · intro q hq
      obtain ⟨-, ⟨kind, text, hfile, -⟩, -, ⟨l, hl⟩, htaken⟩ := (hiff q).1 hq
      exact exists_below_of_taken hround.within hp ht hroots hfile hl htaken
    · intro hgc hcg q hq
      obtain ⟨-, ⟨kind, text, hfile, -⟩, -, ⟨l, hl⟩, htaken⟩ := (hiff q).1 hq
      obtain ⟨x, hx, hbelow⟩ := exists_below_of_taken hround.within hp ht hroots hfile hl htaken
      have hapart := rel_of_mem_take (pairwise_places (m := m) hp hgc hcg) hx hfile
      exact hapart hbelow

/-- Two roots side by side. -/
theorem collides_iff_apart :
    let c : Config := { generatedRoot := ⟨"out"⟩, counterpartRoot := ⟨"./mirror"⟩ }
    let p : Processor := ⟨{}, .ofRoots ⟨"out"⟩ ⟨"./mirror"⟩ "rs", .lenient⟩
    let w : World := { tree := ⟨[(["w"], .directory)], ["w"]⟩ }
    let r : Round := .ofDeclarations [{ name := "a.B", markers := [{ kind := .restController }] }]
    (ofConfig c).runOn w = (.ok p, w) ∧ w.tree.pathExists c.generatedRoot = false ∧
      w.tree.pathExists c.counterpartRoot = false ∧
      ∀ q, ((p.processRound r).runOn w).1 ≠ .error (.emit (.collision q)) := by
  intro c p w r
  have hp : (ofConfig c).runOn w = (.ok p, w) := runOn_ofConfig (by decide +kernel) rfl
  have htree : w.tree.IsTree := by
    intro l e hl he
    simp only [FileTree.get?, hl, if_false, w, List.find?_singleton] at he
    split at he
    · rename_i hw
      obtain rfl : ["w"] = l := by simpa using hw
      rfl
    · cases he
  have hg : w.tree.pathExists c.generatedRoot = false := by decide +kernel
  have hc : w.tree.pathExists c.counterpartRoot = false := by decide +kernel
  have hgp : c.generatedRoot.Plain := ⟨by decide, by decide +kernel⟩
  have hcp : c.counterpartRoot.Plain := ⟨by decide, by decide +kernel⟩
  obtain ⟨-, -, k, -, -, -, hplain⟩ := collides_iff hp hg hc r
  refine ⟨hp, hg, hc, (hplain htree hgp hcp).2 ?_ ?_⟩
  · decide +kernel
  · decide +kernel

/-- One directory, spelled in two ways, before it is there. -/
theorem collides_with_itself :
    let c : Config := { generatedRoot := ⟨"out"⟩, counterpartRoot := ⟨"out/../out"⟩ }
    let p : Processor := ⟨{}, .ofRoots ⟨"out"⟩ ⟨"out/../out"⟩ "rs", .lenient⟩
    let w : World := { tree := ⟨[(["w"], .directory)], ["w"]⟩ }
    let r : Round := .ofDeclarations
      [{ name := "com.acme.OrderController", markers := [{ kind := .restController }] }]
    (ofConfig c).runOn w = (.ok p, w) ∧ w.tree.pathExists c.generatedRoot = false ∧
      w.tree.pathExists c.counterpartRoot = false ∧
      ((p.processRound r).runOn w).1 =
        .error (.emit (.collision ⟨"out/../out/com/acme/StubBase.rs"⟩)) := by
  intro c p w r
  have hp : (ofConfig c).runOn w = (.ok p, w) := runOn_ofConfig (by decide +kernel) rfl
  have hresult : ((p.processRound r).runOn w).1.map (fun _ => ()) =
      .error (.emit (.collision ⟨"out/../out/com/acme/StubBase.rs"⟩)) := by
    decide +kernel
  refine ⟨hp, by decide +kernel, by decide +kernel, ?_⟩
  generalize ((p.processRound r).runOn w).1 = result at hresult ⊢
  cases result with
  | ok report => cases hresult
  | error err =>
    obtain rfl := Except.error.inj hresult
    rfl

end EndpointStubs.Processor
