import EndpointStubs.Proofs.Syntax.TypeTokens

/-!
# The text of a type

The compact text of simple tokens has just these tokens. A type that is written with simple tokens,
without blocks and lengths, is made of simple tokens in its normal form as well, so its text has
just the tokens of the type.

    IsSimple false ts, typeText? of ts is s  →  Lexer.read s = the tokens of the type
-/

namespace EndpointStubs.Syntax

open Parse TokenTree

variable {ts : List TokenTree} {n : Nat} {plus : Bool}

/-- The compact text of the tokens is read as the same tokens. -/
def ReadsBack (ts : List TokenTree) : Prop :=
  ∃ us, Lexer.read (compactText ts).toList = some us ∧ Alike us ts

theorem IsSimple.readsBack {blocks : Bool} (h : IsSimple blocks ts) : ReadsBack ts := by
  obtain ⟨us, hread, halike⟩ := h.read_compact
  exact ⟨us, by rw [compactText, String.toList_ofList, hread], halike⟩

/-- A type is made of simple tokens if it is written with such. -/
theorem isSimple_of_type {c c' : Cursor} {t : TypeShape} {taken front : List TokenTree}
    (hrun : (capture ((Grammar.ofDepth n).type plus)).run c = some ((t, taken), c'))
    (hrest : c.rest = front ++ c'.rest) (h : IsSimple false front) : IsSimple false taken := by
  have htype : TakesTypes True (.ofDepth n) := takesTypes_ofDepth n
  obtain ⟨added, -, -, -, hsimple, -⟩ :=
    (htype plus).capture c (t, taken) c' front hrun hrest fun _ => h.isPlain
  exact hsimple trivial

theorem typeText?_eq_some {text s : String} (h : typeText? text = some s)
    (hread : Lexer.read text.toList = some ts) : ∃ t taken,
      parse? (fun g => capture (g.type true)) ts = some (t, taken) ∧ s = compactText taken := by
  rw [typeText?, hread, Option.bind_eq_bind, Option.bind_some] at h
  obtain ⟨⟨t, taken⟩, hparse, hs⟩ := Option.bind_eq_some_iff.1 h
  exact ⟨t, taken, hparse, (Option.some.inj hs).symm⟩

/-- What reads all of the tokens goes over all of them. -/
theorem exists_run_of_parse? {α : Type} {p : Grammar → Parse α} {a : α}
    (h : parse? p ts = some a) :
    ∃ c, (p (.for ts)).run { rest := ts } = some (a, c) ∧ c.rest = [] := by
  obtain ⟨⟨b, c⟩, hrun, hend⟩ := Option.bind_eq_some_iff.1 h
  dsimp only at hend
  split at hend
  · rename_i hall
    obtain rfl := Option.some.inj hend
    rw [Bool.and_eq_true, List.isEmpty_iff] at hall
    exact ⟨c, hrun, hall.1⟩
  · cases hend

/-- **Compact text keeps its tokens.** Simple tokens at any depth are read back from their compact
text. So are those of a type that is written with simple tokens, wherever it stands in a source, and
those of a text that is a type. -/
theorem compactText_keeps_tokens :
    (∀ ts, IsSimple true ts → ReadsBack ts) ∧
    (∀ n plus c c' t taken front,
      (capture ((Grammar.ofDepth n).type plus)).run c = some ((t, taken), c') →
      c.rest = front ++ c'.rest → IsSimple false front → ReadsBack taken) ∧
    ∀ text s ts, typeText? text = some s → Lexer.read text.toList = some ts → IsSimple false ts →
      ∃ t taken, parse? (fun g => capture (g.type true)) ts = some (t, taken) ∧
        s = compactText taken ∧ ReadsBack taken := by
  refine ⟨fun ts h => h.readsBack, ?_, fun text s ts htext hread h => ?_⟩
  · intro n plus c c' t taken front hrun hrest h
    exact (isSimple_of_type hrun hrest h).readsBack
  · obtain ⟨t, taken, hparse, rfl⟩ := typeText?_eq_some htext hread
    obtain ⟨c, hrun, hend⟩ := exists_run_of_parse? hparse
    have hrest : ts = ts ++ c.rest := by rw [hend, List.append_nil]
    exact ⟨t, taken, hparse, rfl, (isSimple_of_type hrun hrest h).readsBack⟩

/-- The tokens of a reference with a lifetime, to a function type with a raw name in it. -/
def referenceTokens : List TokenTree :=
  [.punct '&' true, .punct '\'' true, .word (.of "a"), .word (.of "fn"),
    .group .paren [.word (Word.of "type").asRaw, .punct ',' false, .word (.of "u8")]]

theorem isSimple_referenceTokens (blocks : Bool) : IsSimple blocks referenceTokens := by
  have hword (s : String) (h : isWord s.toList = true)
      (hs : s.toList.all (fun c => Unicode.isAlphanumeric c = true ∨ c = '_') = true) :
      (Word.of s h).IsSimple := ⟨List.all_iff_forall_prop.1 hs, nofun⟩
  have hraw : (Word.of "type").asRaw.IsSimple :=
    ⟨List.all_iff_forall_prop.1 (by decide), fun _ => by decide⟩
  exact .punct (by decide) nofun <| .lifetime (hword _ _ (by decide)) <|
    .word (hword _ _ (by decide)) <| .group nofun (.word hraw <| .punct (by decide) nofun <|
      .word (hword _ _ (by decide)) .nil) .nil

theorem compactText_keeps_reference :
    (IsSimple true [.group .brace referenceTokens, .punct ';' false] ∧
      ReadsBack [.group .brace referenceTokens, .punct ';' false]) ∧
    (typeText? "&'a  fn (r#type ,u8)" = some "&'a fn(r#type, u8)" ∧
      Lexer.read "&'a  fn (r#type ,u8)".toList = some referenceTokens ∧
      IsSimple false referenceTokens ∧
      ∃ t taken, parse? (fun g => capture (g.type true)) referenceTokens = some (t, taken) ∧
        "&'a fn(r#type, u8)" = compactText taken ∧ ReadsBack taken) := by
  have hblock : IsSimple true [.group .brace referenceTokens, .punct ';' false] :=
    .group (fun _ => rfl) (isSimple_referenceTokens true) (.punct (by decide) (fun _ => rfl) .nil)
  have htext : typeText? "&'a  fn (r#type ,u8)" = some "&'a fn(r#type, u8)" := by decide +kernel
  have hread : Lexer.read "&'a  fn (r#type ,u8)".toList = some referenceTokens := rfl
  have hsimple := isSimple_referenceTokens false
  exact ⟨⟨hblock, compactText_keeps_tokens.1 _ hblock⟩, htext, hread, hsimple,
    compactText_keeps_tokens.2.2 _ _ _ htext hread hsimple⟩

end EndpointStubs.Syntax
