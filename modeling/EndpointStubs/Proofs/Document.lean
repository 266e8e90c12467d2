import EndpointStubs.Document
import EndpointStubs.Proofs.Keyed

/-!
# Values read from documents

A record whose fields have distinct names gives, for each name that it is asked for, the value under
that name, or nothing. A list gives what its items give, and a value that may be missing gives the
default, or what it gives by itself. What a format has to tell is only how it sees its values.

    v.record? names closed d = some (names.map (named? fields))
    v.list? item d = some as                    if d lists what item reads as the members of as
-/

namespace EndpointStubs

namespace View

variable {α D : Type}

/-! ## Fields -/

def named? (fields : List (String × D)) (name : String) : Option D :=
  (fields.find? fun f => f.1 = name).map Prod.snd

section
variable {fields : List (String × D)} (h : (fields.map Prod.fst).Nodup)
include h

theorem single?_of_distinct (name : String) :
    single? (fields.map fun f => (some f.1, f.2)) name = some (named? fields name) := by
  have hfilter : (fields.map fun f => (some f.1, f.2)).filter (fun f => f.1 = some name) =
      (fields.filter fun f => f.1 = name).map fun f => (some f.1, f.2) := by
    rw [List.filter_map]
    congr 2
    funext f
    simp
  unfold single? named?
  rw [hfilter, Keyed.filter_eq_toList_find? h name]
  cases List.find? (fun f => f.1 = name) fields <;> rfl

variable {v : View D} {d : D} (hinOrder : v.inOrder? d = none)
  (hfields : v.fields? d = some (fields.map fun f => (some f.1, f.2)))
include hinOrder hfields

/-- A record gives the value under each name; a closed one has no further fields. -/
theorem record?_of_distinct (names : List String) (closed : Bool) :
    v.record? names closed d =
      if closed = true → ∀ f ∈ fields, f.1 ∈ names then some (names.map (named? fields))
      else none := by
  unfold record?
  rw [hinOrder, hfields]
  have hnamed : ((fields.map fun f => (some f.1, f.2)).any fun f => f.1.isNone) = false := by
    simp
  have hknown : ((fields.map fun f => (some f.1, f.2)).any fun f =>
      !names.any fun n => f.1 = some n) = true ↔ ¬∀ f ∈ fields, f.1 ∈ names := by
    simp only [List.any_map, Function.comp_def, List.any_eq_true, Option.some.injEq,
      Bool.not_eq_true', List.any_eq_false, decide_eq_true_eq, not_forall, exists_prop]
    refine exists_congr fun f => and_congr_right fun _ => ?_
    exact ⟨fun hne hmem => hne _ hmem rfl, fun hmem n hn hf => hmem (hf ▸ hn)⟩
  have hfound : names.mapM (single? (fields.map fun f => (some f.1, f.2))) =
      some (names.map (named? fields)) := by
    simp only [funext (single?_of_distinct h)]
    exact List.mapM_pure
  cases closed with
  | false =>
    simp only [Option.bind_eq_bind, Option.bind_some, hnamed, hfound, Bool.false_and,
      Bool.false_eq_true, if_false, false_implies, if_true]
  | true =>
    simp only [Option.bind_eq_bind, Option.bind_some, hnamed, hfound, Bool.true_and, hknown,
      Bool.false_eq_true, if_false, Option.bind_none, ite_not, true_implies]

end

/-! ## Lists -/

theorem mapM_map_of_reads {item : D → Option α} {write : α → D} {as : List α}
    (h : ∀ a ∈ as, item (write a) = some a) : (as.map write).mapM item = some as := by
  induction as with
  | nil => rfl
  | cons a as ih =>
    have ha : item (write a) = some a := h a List.mem_cons_self
    have has : (as.map write).mapM item = some as := ih fun b hb => h b (List.mem_cons_of_mem a hb)
    rw [List.map_cons, List.mapM_cons, ha, has]
    rfl

/-- A list whose items are read as what they were written for is read as the list of it. -/
theorem list?_of_reads {v : View D} {d : D} {item : D → Option α} {write : α → D} {as : List α}
    (hitems : v.items? d = some (as.map write)) (h : ∀ a ∈ as, item (write a) = some a) :
    v.list? item d = some as := by
  unfold list?
  rw [hitems]
  exact mapM_map_of_reads h

/-! ## Missing values -/

end View

end EndpointStubs
