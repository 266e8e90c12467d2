import EndpointStubs.Syntax.Token

/-!
# Cursors over token trees

A parser walks over token trees and keeps what it has taken, so that the part of the source
that it went through can be printed. What it keeps is in normal form: a parser may drop tokens
that say nothing, add ones that are understood, or change their order. Questions about what
comes next are functions on the remaining tokens.
-/

namespace EndpointStubs.Syntax

/-! ## What comes next -/

namespace Ahead

/-- Words that are no identifiers. -/
def keywords : List String :=
  ["_", "abstract", "as", "async", "await", "become", "box", "break", "const", "continue",
   "crate", "do", "dyn", "else", "enum", "extern", "false", "final", "fn", "for", "if", "impl",
   "in", "let", "loop", "macro", "match", "mod", "move", "mut", "override", "priv", "pub", "ref",
   "return", "Self", "self", "static", "struct", "super", "trait", "true", "try", "type",
   "typeof", "unsafe", "unsized", "use", "virtual", "where", "while", "yield"]

def isWord (w : String) : List TokenTree → Bool
  | .word t :: _ => t.text = w
  | _ => false

def isWordOf (ws : List String) : List TokenTree → Bool
  | .word t :: _ => ws.contains t.text
  | _ => false

def isAnyWord : List TokenTree → Bool
  | .word _ :: _ => true
  | _ => false

/-- A word that is no keyword. -/
def isIdent : List TokenTree → Bool
  | .word t :: _ => !keywords.contains t.text
  | _ => false

/-- Punctuation characters in a row; more may follow. -/
def isPuncts : List Char → List TokenTree → Bool
  | [c], .punct d _ :: _ => c = d
  | c :: cs, .punct d joint :: ts => c = d && joint && isPuncts cs ts
  | _, _ => false

/-- A punctuation token; a longer one that starts with it counts too. -/
def isPunct (s : String) (ts : List TokenTree) : Bool := isPuncts s.toList ts

def isGroup (d : Delimiter) : List TokenTree → Bool
  | .group e _ :: _ => d = e
  | _ => false

def isAnyGroup : List TokenTree → Bool
  | .group _ _ :: _ => true
  | _ => false

def isLifetime : List TokenTree → Bool
  | .punct '\'' true :: .word _ :: _ => true
  | _ => false

/-- A literal token that writes a number. -/
def isNumber : List TokenTree → Bool
  | .literal text :: _ => text.toList.head?.any Char.isDigit
  | _ => false

/-- A literal, a truth value, or a number with a minus sign. -/
def isLiteral : List TokenTree → Bool
  | .literal _ :: _ => true
  | .word t :: _ => t.text = "true" || t.text = "false"
  | .punct '-' _ :: ts => isNumber ts
  | _ => false

/-- A literal token that writes a text of characters. -/
def isText : List TokenTree → Bool
  | .literal text :: _ => text.toList.head?.any fun c => c = '"' || c = 'r'
  | _ => false

/-- Without one token; a lifetime is one token. -/
def skip : List TokenTree → List TokenTree
  | .punct '\'' true :: .word _ :: ts => ts
  | _ :: ts => ts
  | [] => []

end Ahead

/-! ## Parsers -/

/-- The tokens that remain, and those taken so far, the last one first. -/
structure Cursor where
  rest : List TokenTree
  taken : List TokenTree := []
  /-- Some group held more tokens than were taken in it. -/
  leftover : Bool := false

/-- A parser over a cursor. It has no answer, or goes over tokens in front and leaves the
others. -/
structure Parse (α : Type) where
  run : Cursor → Option (α × Cursor)
  leavesEnd : ∀ {c a c'}, run c = some (a, c') → c'.rest <:+ c.rest

namespace Parse

variable {α β : Type}

instance : Monad Parse where
  pure a :=
    { run := fun c => some (a, c)
      leavesEnd := by
        rintro c _ _ ⟨⟩
        exact List.suffix_refl _ }
  bind p f :=
    { run := fun c => (p.run c).bind fun r => (f r.1).run r.2
      leavesEnd := by
        intro c b c'' h
        obtain ⟨⟨a, c'⟩, hp, hf⟩ := Option.bind_eq_some_iff.1 h
        exact ((f a).leavesEnd hf).trans (p.leavesEnd hp) }

instance : Alternative Parse where
  failure := { run := fun _ => none, leavesEnd := nofun }
  orElse p q :=
    { run := fun c => (p.run c).or ((q ()).run c)
      leavesEnd := by
        intro c a c' h
        rcases Option.or_eq_some_iff.1 h with hp | ⟨-, hq⟩
        · exact p.leavesEnd hp
        · exact (q ()).leavesEnd hq }

/-- A parser that is looked at once it runs. -/
def later (p : Unit → Parse α) : Parse α where
  run c := (p ()).run c
  leavesEnd := (p ()).leavesEnd

/-- An answer from the cursor, which stays as it is. -/
def look (answer : Cursor → α) : Parse α where
  run c := some (answer c, c)
  leavesEnd := by
    rintro c _ _ ⟨⟩
    exact List.suffix_refl _

def rest : Parse (List TokenTree) := look Cursor.rest

/-- The remaining tokens answer a question. -/
def ahead (question : List TokenTree → Bool) : Parse Bool := return question (← rest)

def atEnd : Parse Bool := ahead List.isEmpty

/-- A depth that nothing in the remaining tokens exceeds. -/
def depthAhead : Parse Nat := return TokenTree.sizeAll (← rest) + 1

/-- Changes what counts as taken. -/
def rewrite (change : List TokenTree → List TokenTree) : Parse Unit where
  run c := some ((), { c with taken := change c.taken })
  leavesEnd := by
    rintro c _ _ ⟨⟩
    exact List.suffix_refl _

/-- Counts tokens as taken that are not in the source at this place. -/
def emit (ts : List TokenTree) : Parse Unit := rewrite fun taken => ts.reverse ++ taken

def take (n : Nat) : Parse Unit where
  run c := some ((),
    { c with rest := c.rest.drop n, taken := (c.rest.take n).reverse ++ c.taken })
  leavesEnd := by
    rintro c _ _ ⟨⟩
    exact List.drop_suffix n _

/-- What a parser takes, without counting it as taken. -/
def capture (p : Parse α) : Parse (α × List TokenTree) where
  run c := (p.run { c with taken := [] }).map fun r =>
    ((r.1, r.2.taken.reverse), { r.2 with taken := c.taken })
  leavesEnd := by
    intro c _ _ h
    obtain ⟨⟨a, c'⟩, hp, ⟨⟩⟩ := Option.map_eq_some_iff.1 h
    have hend := p.leavesEnd hp
    exact hend

/-- Goes over what a parser takes without counting it as taken. -/
def dropping (p : Parse α) : Parse α := do return (← capture p).1

/-- What a parser takes, counted as taken as well. -/
def noting (p : Parse α) : Parse (α × List TokenTree) := do
  let (a, ts) ← capture p
  emit ts
  return (a, ts)

/-- Counts the tokens that a parser goes over as taken just as they stand, if its answer says
so. -/
def asWrittenIf (p : Parse (α × Bool)) : Parse α where
  run start := (p.run start).map fun r =>
    let passed := start.rest.take (start.rest.length - r.2.rest.length)
    (r.1.1, if r.1.2 then { r.2 with taken := passed.reverse ++ start.taken } else r.2)
  leavesEnd := by
    intro start _ _ h
    obtain ⟨⟨⟨a, asWritten⟩, c'⟩, hp, ⟨⟩⟩ := Option.map_eq_some_iff.1 h
    have hend := p.leavesEnd hp
    cases asWritten <;> exact hend

/-- Counts the tokens that a parser goes over as taken just as they stand. -/
def asWritten (p : Parse α) : Parse α := asWrittenIf do return (← p, true)

/-- What a parser would answer here; nothing is taken. -/
def peek (p : Parse α) : Parse (Option α) := look fun c => (p.run c).map Prod.fst

/-- Fails unless the condition holds. -/
def require (b : Bool) : Parse Unit := if b then pure () else failure

/-! ## Single tokens -/

def punct (s : String) : Parse Unit := do
  require (← ahead (Ahead.isPunct s))
  take s.length

/-- Takes a punctuation token if it is there. -/
def punct? (s : String) : Parse Bool := do
  if ← ahead (Ahead.isPunct s) then
    take s.length
    return true
  return false

def word (w : String) : Parse Unit := do
  require (← ahead (Ahead.isWord w))
  take 1

def word? (w : String) : Parse Bool := do
  if ← ahead (Ahead.isWord w) then
    take 1
    return true
  return false

def anyWord : Parse Word := do
  match ← rest with
  | .word t :: _ =>
    take 1
    return t
  | _ => failure

def ident : Parse Word := do
  require (← ahead Ahead.isIdent)
  anyWord

def identOrBlank : Parse Word := do
  require (← ahead fun ts => Ahead.isIdent ts || Ahead.isWord "_" ts)
  anyWord

def lifetime : Parse Unit := do
  require (← ahead Ahead.isLifetime)
  take 2

def lifetime? : Parse Bool := do
  if ← ahead Ahead.isLifetime then
    take 2
    return true
  return false

/-- Takes a group; the parser has to take all of its tokens in the end, and the cursor
remembers if it does not. -/
def group (d : Delimiter) (p : Parse α) : Parse α where
  run c :=
    match c.rest with
    | .group e inner :: outside =>
      if d = e then (p.run { rest := inner }).map fun r =>
        (r.1,
          { rest := outside
            taken := .group d r.2.taken.reverse :: c.taken
            leftover := c.leftover || r.2.leftover || !r.2.rest.isEmpty })
      else none
    | _ => none
  leavesEnd := by
    intro c _ _ h
    split at h
    · rename_i e inner outside hrest
      split at h
      · obtain ⟨r, -, ⟨⟩⟩ := Option.map_eq_some_iff.1 h
        rw [hrest]
        exact List.suffix_cons _ _
      · cases h
    · cases h

/-- Takes a group and all in it, whatever it is. -/
def anyGroup : Parse (Delimiter × List TokenTree) := do
  match ← rest with
  | .group d inner :: _ =>
    take 1
    return (d, inner)
  | _ => failure

/-! ## Repetition -/

/-- Items up to where the question is answered, with separators between; tells whether a
separator came last. -/
def listUpTo (stop : List TokenTree → Bool) (sep : String) (item : Parse α) :
    Nat → Parse (List α × Bool)
  | 0 => failure
  | n + 1 => do
    if ← ahead stop then return ([], false)
    let a ← item
    if ← ahead stop then return ([a], false)
    punct sep
    let (as, trailing) ← listUpTo stop sep item n
    return (a :: as, trailing || as.isEmpty)

/-- Items up to a stop, with separators between. -/
def list (stop : List TokenTree → Bool) (sep : String) (item : Parse α) : Parse (List α) := do
  return (← listUpTo stop sep item ((← rest).length + 2)).1

def commaList (item : Parse α) : Parse (List α) := list List.isEmpty "," item

/-- Items as long as separators follow, unless the question stops them; tells whether a
separator came last. -/
def chainUpTo (stop : List TokenTree → Bool) (sep : String) (item : Parse α) :
    Nat → Parse (List α × Bool)
  | 0 => failure
  | n + 1 => do
    if ← ahead stop then return ([], false)
    let a ← item
    if ← punct? sep then
      let (as, trailing) ← chainUpTo stop sep item n
      return (a :: as, trailing || as.isEmpty)
    else return ([a], false)

/-- Items as long as separators follow. -/
def chain (stop : List TokenTree → Bool) (sep : String) (item : Parse α) :
    Parse (List α × Bool) := do
  chainUpTo stop sep item ((← rest).length + 2)

def manyUpTo (item : Parse α) : Nat → Parse (List α)
  | 0 => failure
  | n + 1 => do
    if ← atEnd then return []
    let a ← item
    return a :: (← manyUpTo item n)

def many (item : Parse α) : Parse (List α) := do manyUpTo item ((← rest).length + 1)

def runAll (p : Parse α) (ts : List TokenTree) : Option α := do
  let (a, c) ← p.run { rest := ts }
  if c.rest.isEmpty && !c.leftover then some a else none

end Parse

end EndpointStubs.Syntax
