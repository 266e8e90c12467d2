import EndpointStubs.Proofs.FileTree.Place

/-!
# The history of a tree

A tree that only grows has its earlier states in it: each of them is a first part of its entries.
Files below one place may come after files of the same names below another one; this is a property
of the order in which the entries were made.

    t.Before v → v.Before v' → v'.Before u → v.Within v'                          if t grows to u
    Led g m es → Led g m fs → Led g m (es ++ fs)
-/

namespace EndpointStubs.FileTree

/-! ## Earlier trees -/

/-- `u` has the entries of `t`, and possibly later ones. -/
structure Before (t u : FileTree) : Prop where
  cwd : u.cwd = t.cwd
  entries : t.entries <+: u.entries

theorem Before.refl (t : FileTree) : t.Before t := ⟨rfl, List.prefix_refl _⟩

theorem Before.trans {t u v : FileTree} (h : t.Before u) (k : u.Before v) : t.Before v :=
  ⟨k.cwd.trans h.cwd, h.entries.trans k.entries⟩

theorem Grows.before {t u : FileTree} {new : List (Location × Entry)} (h : t.Grows new u) :
    t.Before u :=
  ⟨h.cwd, h.entries ▸ List.prefix_append _ _⟩

/-- A tree on the way of growth has the first of the new entries. -/
theorem Grows.until {t u v : FileTree} {new : List (Location × Entry)} (h : t.Grows new u)
    (hv : t.Before v) (hu : v.Before u) : ∃ new', new' <+: new ∧ t.Grows new' v := by
  obtain ⟨new', hnew'⟩ := hv.entries
  have hpre : new' <+: new := by
    have := hu.entries
    rw [← hnew', h.entries] at this
    exact (List.prefix_append_right_inj _).1 this
  have hg := h.of_prefix hpre
  have hve : v = { t with entries := t.entries ++ new' } := by
    rw [hnew', ← hv.cwd]
  exact ⟨new', hpre, hve ▸ hg⟩

theorem Grows.within_of_before {t u v v' : FileTree} {new : List (Location × Entry)}
    (h : t.Grows new u) (hv : t.Before v) (hvv : v.Before v') (hu : v'.Before u) : v.Within v' := by
  obtain ⟨n, -, hn⟩ := h.until hv (hvv.trans hu)
  obtain ⟨n', -, hn'⟩ := h.until (hv.trans hvv) hu
  have hpre : n <+: n' := by
    have := hvv.entries
    rw [hn.entries, hn'.entries] at this
    exact (List.prefix_append_right_inj _).1 this
  refine ⟨hvv.cwd, fun l e he => ?_⟩
  rcases hn.get?_eq_some_iff.1 he with he | he
  · exact hn'.get?_eq_some_iff.2 (.inl he)
  · exact hn'.get?_eq_some_iff.2 (.inr (hpre.subset he))

/-! ## Files that come after others -/

/-- Each file below `m` comes after the file of the same name below `g`, with the same content. -/
def Led (g m : Location) (es : List (Location × Entry)) : Prop :=
  ∀ before rel b after, es = before ++ (m ++ rel, .file b) :: after → rel ≠ [] →
    (g ++ rel, Entry.file b) ∈ before

section

variable {g m : Location} {es fs : List (Location × Entry)}

theorem Led.append (he : Led g m es) (hf : Led g m fs) : Led g m (es ++ fs) := by
  intro before rel b after h hrel
  rcases List.append_eq_append_iff.1 h with ⟨cs, rfl, hcs⟩ | ⟨cs, hes, hcs⟩
  · exact List.mem_append_right _ (hf cs rel b after hcs hrel)
  · cases cs with
    | nil => exact absurd (hf [] rel b after hcs.symm hrel) List.not_mem_nil
    | cons x cs =>
      obtain ⟨rfl, -⟩ := List.cons.inj hcs
      exact he before rel b cs hes hrel

/-- Only the files count. -/
theorem Led.of_filter (h : Led g m (es.filter fun x => x.2 ≠ .directory)) : Led g m es := by
  rintro before rel b after rfl hrel
  have := h (before.filter fun x => x.2 ≠ .directory) rel b
    (after.filter fun x => x.2 ≠ .directory) (by simp [List.filter_append]) hrel
  exact (List.mem_filter.1 this).1

theorem led_original (hg : ¬g <+: m) (hm : ¬m <+: g) (rel : Location) (e : Entry) :
    Led g m [(g ++ rel, e)] := by
  intro before rel' b after h _
  rcases before with _ | ⟨x, before⟩
  · obtain ⟨hx, -⟩ := List.cons.inj h
    exact absurd (Prod.mk.inj hx).1 (Path.append_ne_append hg hm _ _)
  · simp at h

/-- Two files at the same place below two roots apart, the first one first. -/
theorem led_pair (hg : ¬g <+: m) (hm : ¬m <+: g) (rel : Location) (b : ByteArray) :
    Led g m [(g ++ rel, .file b), (m ++ rel, .file b)] := by
  intro before rel' b' after h _
  rcases before with _ | ⟨x, _ | ⟨y, before⟩⟩
  · obtain ⟨hx, -⟩ := List.cons.inj h
    exact absurd (Prod.mk.inj hx).1 (Path.append_ne_append hg hm _ _)
  · simp only [List.cons_append, List.nil_append, List.cons.injEq, Prod.mk.injEq,
      List.append_cancel_left_eq, Entry.file.injEq] at h
    obtain ⟨rfl, ⟨rfl, rfl⟩, -⟩ := h
    exact List.mem_singleton_self _
  · simp at h

end

end EndpointStubs.FileTree
