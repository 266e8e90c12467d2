import EndpointStubs.Proofs.Emit.Targets
import EndpointStubs.Proofs.FileTree.Directories
import EndpointStubs.Proofs.Session

/-!
# Written files

What writing does to the tree: files are made one after the other at the places of their paths,
and on the way to the paths that were tried directories are made; nothing else changes. An
emitted artifact comes to both of its files, or stops at one of them.

    e.emit name contents, run on t, gives r and u → Emitted e name contents t r u
-/

namespace EndpointStubs

namespace FileTree

/-- From `t` to `u` the files `fs` were made, in this order, and else only directories on the way
to a path that was tried. -/
structure Wrote (t : FileTree) (fs : List (Path × ByteArray)) (tried : List Path) (u : FileTree) :
    Prop where
  grows : ∃ new, t.Grows new u ∧
    (new.filter fun x => x.2 ≠ .directory) = fs.map (fun f => (f.1.place t.cwd, .file f.2)) ∧
    ∀ x ∈ new, x.2 = .directory → ∃ p ∈ tried, x.1 ∈ p.way t.cwd
  there : ∀ f ∈ fs, u.lookup f.1 = .ok (f.1.place t.cwd, .file f.2)

theorem Wrote.refl (t : FileTree) : t.Wrote [] [] t :=
  ⟨⟨[], Grows.refl t, rfl, by simp⟩, by simp⟩

section

variable {t u v : FileTree} {fs gs : List (Path × ByteArray)} {ps qs : List Path}

theorem Wrote.within (h : t.Wrote fs ps u) : t.Within u := by
  obtain ⟨new, hg, -⟩ := h.grows
  exact hg.within

theorem Wrote.trans (h : t.Wrote fs ps u) (k : u.Wrote gs qs v) :
    t.Wrote (fs ++ gs) (ps ++ qs) v := by
  obtain ⟨new, hg, hf, hd⟩ := h.grows
  obtain ⟨new', hg', hf', hd'⟩ := k.grows
  rw [hg.cwd] at hf' hd'
  refine ⟨⟨new ++ new', hg.trans hg', ?_, ?_⟩, ?_⟩
  · rw [List.filter_append, hf, hf', List.map_append]
  · intro x hx hxd
    rcases List.mem_append.1 hx with hx | hx
    · obtain ⟨p, hp, hw⟩ := hd x hx hxd
      exact ⟨p, List.mem_append_left _ hp, hw⟩
    · obtain ⟨p, hp, hw⟩ := hd' x hx hxd
      exact ⟨p, List.mem_append_right _ hp, hw⟩
  · intro f hf
    rcases List.mem_append.1 hf with hf | hf
    · exact k.within.lookup (h.there f hf)
    · rw [← hg.cwd]
      exact k.there f hf

theorem Wrote.fresh (h : t.Wrote fs ps u) {f : Path × ByteArray} (hf : f ∈ fs) :
    t.get? (f.1.place t.cwd) = none := by
  obtain ⟨new, hg, hfiles, -⟩ := h.grows
  have hmem : (f.1.place t.cwd, Entry.file f.2) ∈ new.filter fun x => x.2 ≠ .directory := by
    rw [hfiles]
    exact List.mem_map_of_mem hf
  exact hg.fresh _ (List.mem_filter.1 hmem).1

/-- The files that are new are the ones that were made. -/
theorem Wrote.file_iff (h : t.Wrote fs ps u) {l : Location} :
    (t.get? l = none ∧ ∃ b, u.get? l = some (.file b)) ↔ ∃ f ∈ fs, l = f.1.place t.cwd := by
  obtain ⟨new, hg, hfiles, -⟩ := h.grows
  constructor
  · rintro ⟨hn, b, hb⟩
    rcases hg.get?_eq_some_iff.1 hb with hb | hb
    · rw [hn] at hb
      cases hb
    · have hmem : (l, Entry.file b) ∈ new.filter fun x => x.2 ≠ .directory :=
        List.mem_filter.2 ⟨hb, by simp⟩
      rw [hfiles] at hmem
      obtain ⟨f, hf, he⟩ := List.mem_map.1 hmem
      exact ⟨f, hf, (Prod.mk.inj he).1.symm⟩
  · rintro ⟨f, hf, rfl⟩
    exact ⟨h.fresh hf, f.2, (lookup_eq_ok_iff.1 (h.there f hf)).2⟩

theorem Wrote.nodup (h : t.Wrote fs ps u) : (fs.map fun f => f.1.place t.cwd).Nodup := by
  obtain ⟨new, hg, hfiles, -⟩ := h.grows
  have hsub := (List.filter_sublist (p := fun x => x.2 ≠ .directory) (l := new)).map Prod.fst
  rw [hfiles, List.map_map] at hsub
  exact hg.nodup.sublist hsub

/-- The directories that are new are on the way to a path that was tried. -/
theorem Wrote.directory (h : t.Wrote fs ps u) {l : Location} (hn : t.get? l = none)
    (hd : u.get? l = some .directory) : ∃ p ∈ ps, l ∈ p.way t.cwd := by
  obtain ⟨new, hg, -, hnew⟩ := h.grows
  rcases hg.get?_eq_some_iff.1 hd with hd | hd
  · rw [hn] at hd
    cases hd
  · exact hnew _ hd rfl

/-- An entry is an old one, a file that was made or a directory on the way. -/
theorem Wrote.of_get? (h : t.Wrote fs ps u) {l : Location} {e : Entry} (he : u.get? l = some e) :
    t.get? l = some e ∨ (∃ f ∈ fs, l = f.1.place t.cwd ∧ e = .file f.2) ∨
      e = .directory ∧ ∃ p ∈ ps, l ∈ p.way t.cwd := by
  obtain ⟨new, hg, hfiles, hnew⟩ := h.grows
  rcases hg.get?_eq_some_iff.1 he with he | he
  · exact .inl he
  · cases e with
    | directory => exact .inr (.inr ⟨rfl, hnew _ he rfl⟩)
    | file b =>
      have hmem : (l, Entry.file b) ∈ new.filter fun x => x.2 ≠ .directory :=
        List.mem_filter.2 ⟨he, by simp⟩
      rw [hfiles] at hmem
      obtain ⟨f, hf, hfe⟩ := List.mem_map.1 hmem
      exact .inr (.inl ⟨f, hf, (Prod.mk.inj hfe).1.symm, (Prod.mk.inj hfe).2.symm⟩)

theorem Wrote.mono (h : t.Wrote fs ps u) (hps : ∀ p ∈ ps, p ∈ qs) : t.Wrote fs qs u := by
  obtain ⟨new, hg, hf, hd⟩ := h.grows
  refine ⟨⟨new, hg, hf, fun x hx hxd => ?_⟩, h.there⟩
  obtain ⟨p, hp, hw⟩ := hd x hx hxd
  exact ⟨p, hps p hp, hw⟩

end

/-- `u` refuses a file at `p`: as a collision, for a path that ends in a name, exactly if the path
leads to something and no slash follows the name. -/
structure Refuses (u : FileTree) (p : Path) (err : EmitError) : Prop where
  eq_path : ∀ q, err = .collision q → q = p
  collision_iff : ∀ cs n, p.components = cs ++ [.normal n] →
    (err = .collision p ↔ u.pathExists p = true ∧ p.namesDirectory = false)

end FileTree

namespace Emitter

open FileTree (Wrote)

/-- How writing a new file ends. -/
inductive Written (p : Path) (bytes : ByteArray) (t : FileTree) :
    Except EmitError Unit → FileTree → Prop
  | done {u : FileTree} : t.Wrote [(p, bytes)] [p] u → Written p bytes t (.ok ()) u
  | refused {err : EmitError} {u : FileTree} : t.Wrote [] [p] u → u.Refuses p err →
      Written p bytes t (.error err) u

/-- Making directories writes no file. -/
theorem wrote_createDirectories {p q : Path} (hq : p.parent? = some q) (t : FileTree) :
    t.Wrote [] [p] (t.createDirectories q).2 := by
  obtain ⟨new, hg, hnew⟩ := FileTree.createDirectories_parent_grows hq t
  refine ⟨⟨new, hg, ?_, fun x hx _ => ⟨p, List.mem_singleton_self p, (hnew x hx).2⟩⟩, by simp⟩
  simp only [ne_eq, List.map_nil, List.filter_eq_nil_iff, decide_eq_true_eq, not_not]
  exact fun x hx => (hnew x hx).1

theorem wrote_createFile {p : Path} {bytes : ByteArray} {t u : FileTree}
    (h : t.createFile p bytes = .ok u) : t.Wrote [(p, bytes)] [p] u := by
  obtain ⟨hn, rfl, hl⟩ := FileTree.createFile_eq_ok h
  refine ⟨⟨_, FileTree.grows_insert hn _, by simp, ?_⟩, by simpa using hl⟩
  intro x hx hd
  obtain rfl := List.mem_singleton.1 hx
  cases hd

theorem not_pathExists_of_parent {p q : Path} {t : FileTree} (hq : p.parent? = some q)
    (ht : q.text ≠ "") (hd : t.isDirectory q = false) : t.pathExists p = false := by
  rw [← Bool.not_eq_true]
  intro hp
  obtain ⟨l, e, hl⟩ := FileTree.pathExists_iff.1 hp
  have hmem : q ∈ p.parents := List.mem_of_mem_head? hq
  rw [FileTree.isDirectory_of_mem_parents (FileTree.lookup_eq_ok_iff.1 hl).1 hmem ht] at hd
  cases hd

/-- Directories above a path are made or, if that fails, the path leads nowhere. -/
theorem runOn_makeParents (p : Path) (w : World) :
    w.tree.Wrote [] [p] ((makeParents p).runOn w).2.tree ∧
      (((makeParents p).runOn w).1 = .ok () ∨ ∃ q f,
        ((makeParents p).runOn w).1 = .error (.directory q f) ∧
          ((makeParents p).runOn w).2.tree.pathExists p = false) := by
  unfold makeParents
  cases hq : p.parent? with
  | none => exact ⟨(Wrote.refl w.tree).mono (by simp), .inl rfl⟩
  | some q =>
    have hw := wrote_createDirectories hq w.tree
    have hok := FileTree.createDirectories_eq_ok_iff q w.tree
    simp only [Session.runOn_bind, Session.runOn_tree, Session.runOn_modify]
    generalize w.tree.createDirectories q = r at hw hok
    obtain ⟨r, u⟩ := r
    rw [Session.runOn_ofExcept]
    cases r with
    | ok x => exact ⟨hw, .inl rfl⟩
    | error f =>
      refine ⟨hw, .inr ⟨q, f, rfl, ?_⟩⟩
      simp only [reduceCtorEq, false_iff, not_or, Bool.not_eq_true] at hok
      exact not_pathExists_of_parent hq hok.1 hok.2

/-- Writing a new file ends in one of the ways. -/
theorem written_writeNew (p : Path) (contents : String) (w : World) :
    Written p contents.toUTF8 w.tree ((writeNew p contents).runOn w).1
      ((writeNew p contents).runOn w).2.tree := by
  have hp := runOn_makeParents p w
  unfold writeNew
  rw [Session.runOn_bind]
  generalize (makeParents p).runOn w = r at hp
  obtain ⟨r, w'⟩ := r
  obtain ⟨hw, rfl | ⟨q, f, rfl, hex⟩⟩ := hp
  · simp only [Session.runOn_bind, Session.runOn_change]
    cases hf : w'.tree.createFile p contents.toUTF8 with
    | ok u => exact .done (hw.trans (wrote_createFile hf) |>.mono (by simp))
    | error f =>
      refine .refused hw ⟨?_, fun cs n hn => ?_⟩
      · intro q hq
        cases f <;> simp_all [creationError]
      · rw [← FileTree.createFile_eq_alreadyExists_iff hn contents.toUTF8, hf]
        cases f <;> simp [creationError]
  · exact .refused hw ⟨by simp, fun cs n hn => by simp [hex]⟩

/-- How emitting an artifact ends. -/
inductive Emitted (e : Emitter) (name : String) (bytes : ByteArray) (t : FileTree) :
    Except EmitError Artifact → FileTree → Prop
  | noTargets {err : EmitError} : e.targets name = .error err →
      Emitted e name bytes t (.error err) t
  | canonicalRefused {a : Artifact} {err : EmitError} {u : FileTree} : e.targets name = .ok a →
      t.Wrote [] [a.canonical] u → u.Refuses a.canonical err →
      Emitted e name bytes t (.error err) u
  | counterpartRefused {a : Artifact} {err : EmitError} {u : FileTree} : e.targets name = .ok a →
      t.Wrote [(a.canonical, bytes)] [a.canonical, a.counterpart] u → u.Refuses a.counterpart err →
      Emitted e name bytes t (.error err) u
  | done {a : Artifact} {u : FileTree} : e.targets name = .ok a →
      t.Wrote [(a.canonical, bytes), (a.counterpart, bytes)] [a.canonical, a.counterpart] u →
      Emitted e name bytes t (.ok a) u

/-- Writing an artifact ends in one of the ways. -/
theorem emitted_write (e : Emitter) (name contents : String) (w : World) :
    Emitted e name contents.toUTF8 w.tree ((e.write name contents).runOn w).1
      ((e.write name contents).runOn w).2.tree := by
  unfold write
  rw [Session.runOn_bind, Session.runOn_ofExcept]
  cases ha : e.targets name with
  | error err => exact .noTargets ha
  | ok a =>
    have h1 := written_writeNew a.canonical contents w
    simp only [Session.runOn_bind]
    generalize (writeNew a.canonical contents).runOn w = r at h1
    obtain ⟨r, w'⟩ := r
    cases h1 with
    | refused hw hr => exact .canonicalRefused ha hw hr
    | done hw =>
      have h2 := written_writeNew a.counterpart contents w'
      simp only
      generalize (writeNew a.counterpart contents).runOn w' = r at h2
      obtain ⟨r, w''⟩ := r
      cases h2 with
      | refused hw' hr => exact .counterpartRefused ha (hw.trans hw') hr
      | done hw' => exact .done ha (hw.trans hw')

/-- The report of a failure changes neither the failure nor the tree. -/
theorem emitted_emit (e : Emitter) (name contents : String) (w : World) :
    Emitted e name contents.toUTF8 w.tree ((e.emit name contents).runOn w).1
      ((e.emit name contents).runOn w).2.tree := by
  have h := emitted_write e name contents w
  unfold emit
  rw [Session.runOn_tryCatch]
  generalize (e.write name contents).runOn w = r at h
  obtain ⟨err | a, w'⟩ := r
  · simp only [Session.runOn_bind, Session.runOn_report, Session.runOn_throw]
    exact h
  · exact h

variable {e : Emitter} {name : String} {bytes : ByteArray} {t u : FileTree}
  {r : Except EmitError Artifact}

/-- A call writes nothing, only the first file of its artifact, or both files. -/
theorem Emitted.wrote (h : Emitted e name bytes t r u) :
    ∃ fs ps, t.Wrote fs ps u ∧ (fs = [] ∨ ∃ a, e.targets name = .ok a ∧
      (fs = [(a.canonical, bytes)] ∨ fs = [(a.canonical, bytes), (a.counterpart, bytes)])) := by
  cases h with
  | noTargets _ => exact ⟨[], [], Wrote.refl t, .inl rfl⟩
  | canonicalRefused _ hw _ => exact ⟨_, _, hw, .inl rfl⟩
  | counterpartRefused ha hw _ => exact ⟨_, _, hw, .inr ⟨_, ha, .inl rfl⟩⟩
  | done ha hw => exact ⟨_, _, hw, .inr ⟨_, ha, .inr rfl⟩⟩

/-- A success has written both files, with the same bytes. -/
theorem Emitted.targets_of_ok {a : Artifact} (h : Emitted e name bytes t (.ok a) u) :
    e.targets name = .ok a ∧
      t.Wrote [(a.canonical, bytes), (a.counterpart, bytes)] [a.canonical, a.counterpart] u := by
  cases h with
  | done ha hw => exact ⟨ha, hw⟩

end Emitter

end EndpointStubs
