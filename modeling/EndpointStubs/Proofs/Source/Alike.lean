import EndpointStubs.Processor
import EndpointStubs.Proofs.FileTree.Base
import EndpointStubs.Proofs.Session
import EndpointStubs.Proofs.Source.Walk
import EndpointStubs.Source.Collect

/-!
# Trees that are read alike

A tree that has grown by directories only gives the same round as before, and the same templates:
what was found is still found, and a walk has the same stops, in the same order, and the new
directories. These have to be opened, too.

    t.SameFiles x → stops t l = (stops x l).filter (what was there)
    t.SameFiles x → o.collect, run on t, gives a round → it gives the same one on x, if the new
      directories that are walked can be opened
-/

namespace EndpointStubs

namespace FileTree

variable {t x : FileTree} {l : Location}

/-- `x` is `t` with more directories. -/
structure SameFiles (t x : FileTree) : Prop where
  old : t.Sound
  new : x.Sound
  within : t.Within x
  files : ∀ l b, x.get? l = some (.file b) → t.get? l = some (.file b)

/-- A text that is read is read with more directories, too. -/
theorem SameFiles.readText (h : t.SameFiles x) {p : Path} {s : String}
    (hs : t.readText p = .ok s) : x.readText p = .ok s := by
  unfold FileTree.readText at hs ⊢
  cases hl : t.lookup p with
  | error f =>
    rw [hl] at hs
    cases hs
  | ok y =>
    rw [h.within.lookup hl]
    rw [hl] at hs
    exact hs

end FileTree

open FileTree (SameFiles)

variable {t x : FileTree}

/-! ## Sources -/

namespace Source

/-- The directories that a walk finds in `x` only can be opened. -/
def Opens (t x : FileTree) (p : Path) : Prop :=
  ∀ l rel, t.lookup p = .ok (l, .directory) → x.get? (l ++ rel) = some .directory →
    t.get? (l ++ rel) = none → rel.any isSkipped = false →
    FileTree.checkText (pathBelow p rel) = .ok ()

theorem opens_refl (t : FileTree) (p : Path) : Opens t t p := by
  intro l rel _ hd hnone
  rw [hnone] at hd
  cases hd

theorem scanFile_eq_ok (h : t.SameFiles x) {rootPackage : Option String} {base file : Path}
    {ds : List Declaration} (hd : scanFile t rootPackage base file = .ok ds) :
    scanFile x rootPackage base file = .ok ds := by
  unfold scanFile at hd ⊢
  cases hs : t.readText file with
  | error f =>
    rw [hs] at hd
    cases hd
  | ok s =>
    rw [h.readText hs]
    rw [hs] at hd
    exact hd

theorem atStop_eq_ok (h : t.SameFiles x) {rootPackage : Option String} {base p : Path}
    {y : Location × Entry} {ds : List Declaration} (hd : atStop t rootPackage base p y = .ok ds) :
    atStop x rootPackage base p y = .ok ds := by
  obtain ⟨rel, e⟩ := y
  cases e with
  | file b => exact scanFile_eq_ok h hd
  | directory => exact hd

/-- The stops of the smaller tree are those that were there. -/
theorem stops_eq_filter (h : t.SameFiles x) (l : Location) :
    stops t l = (stops x l).filter fun y => (t.get? (l ++ y.1)).isSome := by
  refine FileTree.eq_of_pairwise_precedes ((FileTree.pairwise_below h.old l).filter _)
    (((FileTree.pairwise_below h.new l).filter _).filter _) fun ⟨rel, e⟩ => ?_
  simp only [stops, List.mem_filter, FileTree.mem_below_iff h.old, FileTree.mem_below_iff h.new]
  constructor
  · rintro ⟨⟨hne, he⟩, hstop⟩
    exact ⟨⟨⟨hne, h.within.keeps _ _ he⟩, hstop⟩, by rw [he]; rfl⟩
  · rintro ⟨⟨⟨hne, he⟩, hstop⟩, hold⟩
    obtain ⟨e', he'⟩ := Option.isSome_iff_exists.1 hold
    have hxe := h.within.keeps _ _ he'
    rw [he] at hxe
    exact ⟨⟨hne, he'.trans hxe.symm⟩, hstop⟩

/-- A source that is read is read with more directories, too, if they can be opened. -/
theorem declarations_eq_ok (h : t.SameFiles x) {root : Path} (hopens : Opens t x root)
    {rootPackage : Option String} {ds : List Declaration}
    (hd : declarations t root rootPackage = .ok ds) :
    declarations x root rootPackage = .ok ds := by
  cases hl : t.lookup root with
  | error f =>
    rw [declarations, visits, hl] at hd
    cases hd
  | ok y =>
    obtain ⟨l, b | b⟩ := y
    · rw [declarations_of_directory h.old hl, stops_eq_filter h] at hd
      rw [declarations_of_directory h.new (h.within.lookup hl)]
      rw [← inTurn_filter (q := fun y => (t.get? (l ++ y.1)).isSome)]
      · exact inTurn_eq_ok_of (fun y _ ds hy => atStop_eq_ok h hy) hd
      · -- What is new is a directory, which gives nothing.
        rintro ⟨rel, e⟩ hy hold
        rw [stops, List.mem_filter, FileTree.mem_below_iff h.new] at hy
        rw [Option.isSome_eq_false_iff, Option.isNone_iff_eq_none] at hold
        cases e with
        | file b =>
          rw [h.files _ _ hy.1.2] at hold
          cases hold
        | directory =>
          have hskip : rel.any isSkipped = false := by simpa [isStop] using hy.2
          simp only [atStop, hopens l rel hl hy.1.2 hold hskip]
    · rw [declarations_of_file hl] at hd
      rw [declarations_of_file (h.within.lookup hl)]
      exact scanFile_eq_ok h hd

end Source

/-- A round is collected from a tree with more directories as from the tree without them. -/
theorem Origins.echoes_collect (h : t.SameFiles x) {o : Origins}
    (hopens : ∀ p ∈ o.sources, Source.Opens t x p) :
    Session.Echoes t x o.collect o.collect := by
  have hscan : ∀ p ∈ o.sources, Session.Echoes t x (Source.scan p o.rootPackage)
      (Source.scan p o.rootPackage) := by
    intro p hp
    refine Session.echoes_tree ?_
    refine (Session.echoes_ofExcept fun ds hd =>
      Source.declarations_eq_ok h (hopens p hp) hd).bind fun ds => ?_
    exact (Session.echoes_report _ _).bind fun _ => Session.echoes_pure _
  have hload : ∀ p, Session.Echoes t x (Manifest.loadRound p) (Manifest.loadRound p) := by
    intro p
    refine Session.echoes_tree ?_
    refine (Session.echoes_ofExcept fun m hm => ?_).bind fun m => ?_
    · unfold Manifest.load at hm ⊢
      cases hs : t.readText p with
      | error f =>
        rw [hs] at hm
        cases hm
      | ok s =>
        rw [h.readText hs]
        rw [hs] at hm
        exact hm
    · exact (Session.echoes_report _ _).bind fun _ => Session.echoes_pure _
  unfold collect rounds
  refine Session.Echoes.bind ?_ fun rs => Session.echoes_pure _
  refine (Session.echoes_mapM fun p hp => (hscan p hp).mapError _).bind fun rs => ?_
  exact (Session.echoes_mapM fun p _ => (hload p).mapError _).bind fun _ => Session.echoes_pure _

end EndpointStubs
