import EndpointStubs.Path
import EndpointStubs.Proofs.Text.Pieces

/-!
# Components

How the components of a path come from its text, and what building a path from others does to
them. Only pieces that count matter, and a path that is built from the pieces of another one
keeps the head it was cut from.

    (p.join q).components = p.components ++ q.components          for q without head
    q ∈ p.parents → q.components is a proper start of p.components
    p.stripPrefix? q = some r → p.components = q.components ++ r.components
-/

namespace EndpointStubs.Path

/-! ## Bodies -/

theorem isFiller_eq_false_iff {x : List Char} : isFiller x = false ↔ x ≠ [] ∧ x ≠ ['.'] := by
  simp [isFiller]

def bodyComponents (b : List (List Char)) : List Component :=
  (b.filter fun x => !isFiller x).map pieceComponent

theorem components_eq (p : Path) : p.components = p.head.components ++ bodyComponents p.body := rfl

@[simp] theorem bodyComponents_nil : bodyComponents [] = [] := rfl

@[simp] theorem bodyComponents_append (a b : List (List Char)) :
    bodyComponents (a ++ b) = bodyComponents a ++ bodyComponents b := by
  simp [bodyComponents]

theorem bodyComponents_cons_of_isFiller {x : List Char} (h : isFiller x = true)
    (b : List (List Char)) : bodyComponents (x :: b) = bodyComponents b := by
  simp [bodyComponents, h]

theorem bodyComponents_cons {x : List Char} (h : isFiller x = false) (b : List (List Char)) :
    bodyComponents (x :: b) = pieceComponent x :: bodyComponents b := by
  simp [bodyComponents, h]

theorem bodyComponents_eq_nil {b : List (List Char)} (h : ∀ x ∈ b, isFiller x = true) :
    bodyComponents b = [] := by
  simp only [bodyComponents, List.map_eq_nil_iff, List.filter_eq_nil_iff]
  intro x hx
  simp [h x hx]

theorem bodyComponents_of_all_empty {b : List (List Char)} (h : ∀ x ∈ b, x = []) :
    bodyComponents b = [] :=
  bodyComponents_eq_nil fun x hx => by rw [h x hx]; rfl

theorem bodyComponents_dropWhile (b : List (List Char)) :
    bodyComponents (b.dropWhile isFiller) = bodyComponents b := by
  conv => rhs; rw [← List.takeWhile_append_dropWhile (p := isFiller) (l := b)]
  have h : bodyComponents (b.takeWhile isFiller) = [] :=
    bodyComponents_eq_nil fun x hx => List.all_eq_true.1 List.all_takeWhile x hx
  rw [bodyComponents_append, h, List.nil_append]

theorem bodyComponents_reverse (b : List (List Char)) :
    bodyComponents b.reverse = (bodyComponents b).reverse := by
  simp [bodyComponents, List.filter_reverse]

theorem bodyComponents_dropFillerEnd (b : List (List Char)) :
    bodyComponents (dropFillerEnd b) = bodyComponents b := by
  unfold dropFillerEnd
  rw [bodyComponents_reverse, bodyComponents_dropWhile, bodyComponents_reverse,
    List.reverse_reverse]

theorem dropFillerEnd_isPrefix (b : List (List Char)) : dropFillerEnd b <+: b := by
  unfold dropFillerEnd
  conv => rhs; rw [← List.reverse_reverse b]
  exact List.reverse_prefix.2 (List.dropWhile_suffix _)

/-- Joining pieces without slashes and cutting again gives the same components. -/
theorem bodyComponents_pieces_join {b : List (List Char)} (h : ∀ x ∈ b, '/' ∉ x) :
    bodyComponents (Text.pieces '/' (Text.join ['/'] b)) = bodyComponents b := by
  by_cases hb : b = []
  · subst hb; rfl
  · rw [Text.pieces_join hb h]

theorem not_mem_of_mem_body {p : Path} {x : List Char} (h : x ∈ p.body) : '/' ∉ x :=
  Text.not_mem_of_mem_pieces h

/-- The last piece, if there is one, counts. -/
def EndsCounting (b : List (List Char)) : Prop := ∀ x ∈ b.getLast?, isFiller x = false

theorem endsCounting_reverse_dropWhile (b : List (List Char)) :
    EndsCounting (b.dropWhile isFiller).reverse := by
  intro x hx
  rw [List.getLast?_reverse] at hx
  have := List.head?_dropWhile_not isFiller b
  rw [hx] at this
  simpa using this

/-! ## Heads -/

theorem chars_append_cutHead (cs : List Char) : (cutHead cs).1.chars ++ (cutHead cs).2 = cs := by
  fun_cases cutHead cs <;> rfl

theorem cutHead_append_of_counts {x : List Char} (hx : isFiller x = false) (hs : '/' ∉ x)
    (t : List Char) : cutHead (x ++ t) = (.none, x ++ t) := by
  match x with
  | [] => simp [isFiller] at hx
  | [c] =>
    simp only [isFiller, List.mem_singleton] at hx hs
    unfold cutHead
    split <;> simp_all
  | c :: d :: x =>
    simp only [List.mem_cons, not_or] at hs
    unfold cutHead
    split <;> simp_all

/-- What stands behind a slash does not change the head. -/
theorem cutHead_append_slash {cs : List Char} (h : cs ≠ []) (ds : List Char) :
    cutHead (cs ++ '/' :: ds) = ((cutHead cs).1, (cutHead cs).2 ++ '/' :: ds) := by
  fun_cases cutHead cs with
  | case1 cs => rfl
  | case2 => rfl
  | case3 cs => rfl
  | case4 cs h1 h2 h3 =>
    match cs with
    | [] => exact absurd rfl h
    | [c] => 
      unfold cutHead
      split <;> simp_all
    | c :: d :: cs =>
      unfold cutHead
      split <;> simp_all

/-- A text that is neither empty nor starts with a head starts with a piece that counts. -/
theorem isFiller_of_cutHead {cs x : List Char} {rest : List (List Char)} (hcs : cs ≠ [])
    (hh : (cutHead cs).1 = .none) (hx : Text.pieces '/' cs = x :: rest) : isFiller x = false := by
  revert hh
  have hjoin := Text.join_pieces '/' cs
  rw [hx] at hjoin
  fun_cases cutHead cs with
  | case1 | case2 | case3 =>
    intro hh
    cases hh
  | case4 cs h1 h2 h3 =>
    intro _
    rw [isFiller_eq_false_iff]
    cases rest with
    | nil =>
      simp only [Text.join] at hjoin
      exact ⟨fun h => hcs (hjoin ▸ h), fun h => h2 (hjoin ▸ h)⟩
    | cons y rest =>
      simp only [Text.join] at hjoin
      constructor
      · rintro rfl
        exact h1 _ hjoin.symm
      · rintro rfl
        exact h3 _ hjoin.symm

/-- Pieces from the start of what follows a head keep the head. -/
theorem cutHead_chars_append_join {cs : List Char} {b : List (List Char)}
    (hb : b <+: Text.pieces '/' (cutHead cs).2) (he : EndsCounting b) :
    cutHead ((cutHead cs).1.chars ++ Text.join ['/'] b) = ((cutHead cs).1, Text.join ['/'] b) := by
  revert hb
  fun_cases cutHead cs with
  | case1 cs => intro _; rfl
  | case2 =>
    intro hb
    rcases b with _ | ⟨x, b⟩
    · rfl
    · obtain ⟨rfl, rfl⟩ : x = [] ∧ b = [] := by simpa [Text.pieces] using hb
      exact absurd (he [] rfl) (by simp [isFiller])
  | case3 cs =>
    intro hb
    rcases b with _ | ⟨x, _ | ⟨y, b⟩⟩
    · rfl
    · obtain rfl : x = [] := by simpa [Text.pieces] using hb
      exact absurd (he [] rfl) (by simp [isFiller])
    · obtain rfl : x = [] := by
        simp only [Text.pieces, if_true, List.cons_prefix_cons] at hb
        exact hb.1
      rfl
  | case4 cs h1 h2 h3 =>
    intro hb
    rcases b with _ | ⟨x, b⟩
    · rfl
    · have hs : '/' ∉ x := Text.not_mem_of_mem_pieces (hb.subset List.mem_cons_self)
      have hx : isFiller x = false := by
        by_cases hcs : cs = []
        · subst hcs
          obtain ⟨rfl, rfl⟩ : x = [] ∧ b = [] := by simpa [Text.pieces] using hb
          exact he [] rfl
        · obtain ⟨rest, hr⟩ := hb
          exact isFiller_of_cutHead hcs (by rw [cutHead.eq_4 cs h1 h2 h3]) hr.symm
      rcases b with _ | ⟨y, b⟩
      · simpa [Text.join, Head.chars] using cutHead_append_of_counts hx hs []
      · simpa [Text.join, Head.chars] using
          cutHead_append_of_counts hx hs ('/' :: Text.join ['/'] (y :: b))

/-! ## Paths from pieces -/

theorem components_mk (cs : List Char) :
    (Path.mk (String.ofList cs)).components =
      (cutHead cs).1.components ++ bodyComponents (Text.pieces '/' (cutHead cs).2) := by
  simp [components_eq, head, body]

/-- A front part of a body gives a front part of the components. -/
theorem components_ofBody {p : Path} {b : List (List Char)} (hb : b <+: p.body)
    (he : EndsCounting b) :
    (ofBody p.head b).components = p.head.components ++ bodyComponents b := by
  have h : cutHead (p.head.chars ++ Text.join ['/'] b) = (p.head, Text.join ['/'] b) :=
    cutHead_chars_append_join hb he
  unfold ofBody
  rw [components_mk, h, bodyComponents_pieces_join]
  exact fun x hx => not_mem_of_mem_body (hb.subset hx)

theorem components_ofBody_none {b : List (List Char)} (hs : ∀ x ∈ b, '/' ∉ x)
    (hb : ∀ x ∈ b.head?, isFiller x = false) : (ofBody .none b).components = bodyComponents b := by
  rcases b with _ | ⟨x, b⟩
  · rfl
  · obtain ⟨t, ht⟩ : ∃ t, Text.join ['/'] (x :: b) = x ++ t := by
      rcases b with _ | ⟨y, b⟩
      · exact ⟨[], by simp [Text.join]⟩
      · exact ⟨'/' :: Text.join ['/'] (y :: b), by simp [Text.join]⟩
    have h : cutHead (Text.join ['/'] (x :: b)) = (.none, Text.join ['/'] (x :: b)) := by
      rw [ht]
      exact cutHead_append_of_counts (hb x rfl) (hs x List.mem_cons_self) t
    rw [ofBody, show Head.none.chars = [] from rfl, List.nil_append, components_mk, h,
      bodyComponents_pieces_join hs]
    rfl

end EndpointStubs.Path
