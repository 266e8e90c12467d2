import EndpointStubs.Proofs.FileTree.Below
import EndpointStubs.Proofs.Source.InTurn
import EndpointStubs.Source.Tree

/-!
# Walks without recursion

A walk gives what its stops give in turn: the source files and the directories of the listing below
its source, except for those in skipped directories. A directory is a stop since it may be closed,
and then the walk ends there.

    inTurn (scanVisit t …) (walk t l p) = inTurn (atStop t … p) (stops t l)
-/

namespace EndpointStubs

namespace Path

variable {p q : Path}

theorem nul_not_mem_join (hp : '\x00' ∉ p.text.toList) (hq : '\x00' ∉ q.text.toList) :
    '\x00' ∉ (p.join q).text.toList := by
  unfold join
  split
  · exact hq
  · split <;> simp [hp, hq]

theorem join_text_ne (hq : q.text ≠ "") : (p.join q).text ≠ "" := by
  unfold join
  split
  · exact hq
  · split <;> simp [hq]

end Path

namespace Source

/-! ## Stops -/

def pathBelow (p : Path) (rel : Location) : Path := rel.foldl (fun q n => q.join ⟨n⟩) p

/-- The path of names below a path that can be followed is only ever too long. -/
theorem checkText_pathBelow {p : Path} (hp : FileTree.checkText p = .ok ()) {rel : Location}
    (hrel : ∀ n ∈ rel, FileTree.IsName n) :
    FileTree.checkText (pathBelow p rel) =
      if (pathBelow p rel).text.utf8ByteSize < FileTree.maxPath then .ok ()
      else .error .nameTooLong := by
  obtain ⟨hnul, hne, -⟩ := FileTree.checkText_eq_ok_iff.1 hp
  have hkept : '\x00' ∉ (pathBelow p rel).text.toList ∧ (pathBelow p rel).text ≠ "" := by
    clear hp
    induction rel generalizing p with
    | nil => exact ⟨hnul, hne⟩
    | cons n rel ih =>
      obtain ⟨hn, hrest⟩ := List.forall_mem_cons.1 hrel
      have hname := hn.isEntryName.ne_empty
      exact ih hrest (Path.nul_not_mem_join hnul hn.no_nul) (Path.join_text_ne hname)
  split
  · exact FileTree.checkText_eq_ok_iff.2 ⟨hkept.1, hkept.2, ‹_›⟩
  · rename_i hlong
    simp only [FileTree.checkText, List.contains_iff_mem, hkept.1, hkept.2, if_false]
    rw [if_pos (Nat.le_of_not_lt hlong)]
    rfl

/-- A source file or a directory that is not in a skipped directory, nor skipped itself. -/
def isStop : Location × Entry → Bool
  | (rel, .file _) => !rel.dropLast.any isSkipped && rel.getLast?.any isSourceName
  | (rel, .directory) => !rel.any isSkipped

def stops (t : FileTree) (l : Location) : List (Location × Entry) := (t.below l).filter isStop

def atStop (t : FileTree) (rootPackage : Option String) (base p : Path) :
    Location × Entry → Except SourceError (List Declaration)
  | (rel, .file _) => scanFile t rootPackage base (pathBelow p rel)
  | (rel, .directory) =>
    match FileTree.checkText (pathBelow p rel) with
    | .ok () => .ok []
    | .error f => .error (.unreadable (.names base (pathBelow p rel)) f)

variable {t : FileTree} {l : Location} {rootPackage : Option String} {base p : Path}

/-! ## One directory -/

/-- A stop below a directory is one in the whole if the directory is not skipped. -/
theorem isStop_cons (n : String) {y : Location × Entry} (hy : y.1 ≠ []) :
    isStop (n :: y.1, y.2) = (!isSkipped n && isStop y) := by
  obtain ⟨rel, e⟩ := y
  cases e with
  | file b =>
    obtain ⟨m, ms, rfl⟩ := List.exists_cons_of_ne_nil hy
    simp [isStop, Bool.and_assoc]
  | directory => simp [isStop]

/-- The stops that a name of a directory stands for. -/
def stopsAt (t : FileTree) (l : Location) : String × Entry → List (Location × Entry)
  | (n, .file b) => if isSourceName n then [([n], .file b)] else []
  | (n, .directory) =>
    if isSkipped n then []
    else ([n], .directory) :: (stops t (l ++ [n])).map fun y => (n :: y.1, y.2)

theorem stops_eq_flatMap (ht : t.Sound) (l : Location) :
    stops t l = (t.children l).flatMap (stopsAt t l) := by
  rw [stops, FileTree.below_eq_flatMap ht, List.filter_flatMap]
  refine List.flatMap_congr fun c hc => ?_
  obtain ⟨n, e⟩ := c
  have he := (FileTree.mem_children_iff ht).1 hc
  rw [FileTree.branch]
  cases e with
  | file b =>
    rw [FileTree.below_of_file ht he, List.map_nil, stopsAt]
    cases hn : isSourceName n <;> simp [isStop, hn]
  | directory =>
    have hrest : ((t.below (l ++ [n])).map fun y => (n :: y.1, y.2)).filter isStop =
        if isSkipped n then [] else (stops t (l ++ [n])).map fun y => (n :: y.1, y.2) := by
      rw [List.filter_map, stops]
      have hcons : (t.below (l ++ [n])).filter (isStop ∘ fun y => (n :: y.1, y.2)) =
          (t.below (l ++ [n])).filter fun y => !isSkipped n && isStop y :=
        List.filter_congr fun y hy => isStop_cons n ((FileTree.mem_below_iff ht).1 hy).1
      rw [hcons]
      cases isSkipped n <;> simp
    rw [List.filter_cons, hrest, stopsAt]
    cases hn : isSkipped n <;> simp [isStop, hn]

/-- A walk of a directory that can be opened, name by name. -/
theorem walk_eq_flatMap (t : FileTree) (l : Location) (hp : FileTree.checkText p = .ok ()) :
    walk t l p = (t.children l).flatMap fun c =>
      match c.2 with
      | .file _ => if isSourceName c.1 then [.file (p.join ⟨c.1⟩)] else []
      | .directory => if isSkipped c.1 then [] else walk t (l ++ [c.1]) (p.join ⟨c.1⟩) := by
  conv_rhs => rw [← List.attach_map_subtype_val (t.children l), List.flatMap_map]
  rw [walk, hp]
  refine List.flatMap_congr fun ⟨⟨n, e⟩, _⟩ _ => ?_
  cases e <;> rfl

/-! ## The whole walk -/

theorem atStop_cons (n : String) (y : Location × Entry) :
    atStop t rootPackage base p (n :: y.1, y.2) =
      atStop t rootPackage base (p.join ⟨n⟩) y := by
  obtain ⟨rel, e⟩ := y
  cases e <;> rfl

/-- The visits of a walk and its stops give the same in turn. -/
theorem inTurn_walk (ht : t.Sound) (hp : FileTree.checkText p = .ok ()) :
    inTurn (scanVisit t rootPackage base) (walk t l p) =
      inTurn (atStop t rootPackage base p) (stops t l) := by
  induction hc : t.countBelow l using Nat.strongRecOn generalizing l p with
  | ind count ih =>
    rw [walk_eq_flatMap t l hp, stops_eq_flatMap ht l]
    refine inTurn_flatMap fun ⟨n, e⟩ hmem => ?_
    cases e with
    | file b =>
      simp only [stopsAt]
      split
      · rw [inTurn_singleton, inTurn_singleton]
        rfl
      · rfl
    | directory =>
      simp only [stopsAt]
      split
      · rfl
      · cases hq : FileTree.checkText (p.join ⟨n⟩) with
        | error f =>
          have hstop : atStop t rootPackage base p ([n], .directory) =
              .error (.unreadable (.names base (p.join ⟨n⟩)) f) := by
            simp [atStop, pathBelow, hq]
          rw [walk, hq, inTurn_singleton, inTurn_cons_of_error hstop]
          rfl
        | ok u =>
          have hstop : atStop t rootPackage base p ([n], .directory) = .ok [] := by
            simp [atStop, pathBelow, hq]
          have hbelow := ih _ (hc ▸ FileTree.countBelow_lt hmem) (p := p.join ⟨n⟩) hq rfl
          rw [hbelow, inTurn_cons_of_ok hstop, inTurn_map]
          simp only [atStop_cons]
          cases inTurn (atStop t rootPackage base (p.join ⟨n⟩)) (stops t (l ++ [n])) <;> rfl

/-- The declarations in a directory are those of its stops. -/
theorem declarations_of_directory (ht : t.Sound) {root : Path}
    (hroot : t.lookup root = .ok (l, .directory)) :
    declarations t root rootPackage = inTurn (atStop t rootPackage root root) (stops t l) := by
  have hp := (FileTree.resolve_eq_ok_iff.1 (FileTree.lookup_eq_ok_iff.1 hroot).1).1
  rw [← inTurn_walk ht hp, declarations, visits, hroot]
  rfl

/-- A source that is a file is scanned as a module of the directory above it. -/
theorem declarations_of_file {root : Path} {b : ByteArray}
    (hroot : t.lookup root = .ok (l, .file b)) :
    declarations t root rootPackage =
      scanFile t rootPackage (root.parent?.getD ⟨""⟩) root := by
  rw [declarations, visits, hroot]
  exact inTurn_singleton (f := scanVisit t rootPackage _) (.file root)

end Source

end EndpointStubs
