import EndpointStubs.Syntax.Token
import EndpointStubs.Text.Quoted

/-!
# From text to token trees

Blanks and comments separate tokens; a doc comment stands for the attribute that holds its
text. A text has tokens if every character belongs to one and delimiters match.

    Lexer.read cs = some ts    for the token trees ts of all of cs
-/

namespace EndpointStubs.Syntax.Lexer

/-! ## Blanks and comments -/

/-- Blanks between tokens, the marks of writing direction included. -/
def isBlank (c : Char) : Bool := Text.isBlank c || c = '\u200e' || c = '\u200f'

/-- The rest of a line, and what follows from its end on. -/
def cutLine : List Char → List Char × List Char
  | [] => ([], [])
  | '\n' :: cs => ([], '\n' :: cs)
  | '\r' :: '\n' :: cs => ([], '\r' :: '\n' :: cs)
  | c :: cs =>
    let (line, rest) := cutLine cs
    (c :: line, rest)

/-- The rest of a block comment inside `depth` more, and what follows it. -/
def cutBlock : Nat → List Char → Option (List Char × List Char)
  | _, [] => none
  | depth, '/' :: '*' :: cs => (cutBlock (depth + 1) cs).map fun r => ('/' :: '*' :: r.1, r.2)
  | 0, '*' :: '/' :: cs => some ([], cs)
  | depth + 1, '*' :: '/' :: cs => (cutBlock depth cs).map fun r => ('*' :: '/' :: r.1, r.2)
  | depth, c :: cs => (cutBlock depth cs).map fun r => (c :: r.1, r.2)

/-- A carriage return stands without its line feed. -/
def hasBareReturn : List Char → Bool
  | [] => false
  | '\r' :: '\n' :: cs => hasBareReturn cs
  | '\r' :: _ => true
  | _ :: cs => hasBareReturn cs

/-- The comments that say something about the code. -/
inductive DocComment where
  | outer (text : List Char)
  | inner (text : List Char)

def cutDoc : List Char → Option (DocComment × List Char)
  | '/' :: '/' :: '!' :: cs =>
    let (line, rest) := cutLine cs
    some (.inner line, rest)
  | '/' :: '*' :: '!' :: cs => (cutBlock 0 cs).map fun r => (.inner r.1, r.2)
  | '/' :: '/' :: '/' :: cs =>
    if cs.head? = some '/' then none
    else
      let (line, rest) := cutLine cs
      some (.outer line, rest)
  | '/' :: '*' :: '*' :: cs =>
    if cs.head? = some '*' then none else (cutBlock 0 cs).map fun r => (.outer r.1, r.2)
  | _ => none

/-- The other comments in front. -/
def cutComment : List Char → Option (List Char)
  | '/' :: '/' :: cs =>
    if cs.head? = some '!' || (cs.head? = some '/' && (cs.drop 1).head? ≠ some '/') then none
    else some (cutLine cs).2
  | '/' :: '*' :: '*' :: '/' :: cs => some cs
  | '/' :: '*' :: cs =>
    if cs.head? = some '!' || (cs.head? = some '*' && (cs.drop 1).head? ≠ some '*') then none
    else (cutBlock 0 cs).map Prod.snd
  | _ => none

/-- Without blanks and comments in front. -/
def skipBlanks : Nat → List Char → List Char
  | 0, cs => cs
  | fuel + 1, cs =>
    let cs := cs.dropWhile isBlank
    match cutComment cs with
    | some rest => skipBlanks fuel rest
    | none => cs

/-! ## Words -/

/-- The word in front, without a mark. -/
def cutPlainWord : List Char → Option (Word × List Char)
  | c :: cs =>
    if h : isWordStart c = true then
      some (.startingWith c cs h, cs.dropWhile isWordContinue)
    else none
  | [] => none

/-- Words that have no raw form. -/
def neverRaw : List String := ["_", "super", "self", "Self", "crate"]

/-- The word in front; a raw word keeps its mark. -/
def cutAnyWord : List Char → Option (Word × List Char)
  | 'r' :: '#' :: cs => do
    let (word, rest) ← cutPlainWord cs
    if neverRaw.contains word.letters then none
    return (word.asRaw, rest)
  | cs => cutPlainWord cs

/-- What starts a literal starts no word. -/
def literalStarts : List String :=
  ["r\"", "r#\"", "r##", "b\"", "b'", "br\"", "br#", "c\"", "cr\"", "cr#"]

/-- The identifier or keyword in front. -/
def cutWord (cs : List Char) : Option (Word × List Char) :=
  if literalStarts.any fun s => s.toList.isPrefixOf cs then none else cutAnyWord cs

/-! ## Literals

Each function takes a literal's form from the front of a text and returns what follows. -/

/-- What follows the suffix of a literal. -/
def dropSuffix (cs : List Char) : List Char :=
  match cutPlainWord cs with
  | some (_, rest) => rest
  | none => cs

/-- The rest of a raw text with `hashes` marks, after its opening quote. -/
def dropRaw (allows : Char → Bool) (hashes : List Char) : List Char → Option (List Char)
  | [] => none
  | '\r' :: cs =>
    match cs with
    | '\n' :: cs => dropRaw allows hashes cs
    | _ => none
  | c :: cs =>
    match if c = '"' then hashes.isPrefixOf? cs else none with
    | some rest => some rest
    | none => if allows c then dropRaw allows hashes cs else none

/-- A raw text after its letters. -/
def rawText (allows : Char → Bool) (cs : List Char) : Option (List Char) :=
  let (hashes, rest) := cs.span (· = '#')
  match rest with
  | '"' :: rest => if hashes.length > 255 then none else dropRaw allows hashes rest
  | _ => none

/-- A quoted text after its opening quote. -/
def cookedText (f : Text.Quoted.Form) (cs : List Char) : Option (List Char) :=
  (f.readFrom .plain cs).map Prod.snd

/-- A quoted or raw text of any kind. -/
def textLiteral : List Char → Option (List Char)
  | '"' :: cs => cookedText .text cs
  | 'b' :: '"' :: cs => cookedText .bytes cs
  | 'c' :: '"' :: cs => cookedText .terminated cs
  | 'b' :: 'r' :: cs => rawText Text.Quoted.Form.bytes.allows cs
  | 'c' :: 'r' :: cs => rawText Text.Quoted.Form.terminated.allows cs
  | 'r' :: cs => rawText (fun _ => true) cs
  | _ => none

def isEscapeLetter (c : Char) : Bool := "nrt\\0'\"".toList.contains c

/-- Two hexadecimal digits below a limit. -/
def dropHex (limit : Nat) : List Char → Option (List Char)
  | a :: b :: cs =>
    match Text.Quoted.hexDigit? a, Text.Quoted.hexDigit? b with
    | some a, some _ => if a * 16 < limit then some cs else none
    | _, _ => none
  | _ => none

/-- The digits of a code point after the opening brace. -/
def dropScalar : Nat → Nat → List Char → Option (List Char)
  | _, _, [] => none
  | value, count, c :: cs =>
    match Text.Quoted.hexDigit? c with
    | some d => if count < 6 then dropScalar (value * 16 + d) (count + 1) cs else none
    | none =>
      if count = 0 then none
      else if c = '_' then dropScalar value count cs
      else if c = '}' then (Text.Quoted.charOf? value).map fun _ => cs
      else none

def characterLiteral (cs : List Char) : Option (List Char) := do
  let rest ← match cs with
    | '\\' :: 'x' :: cs => dropHex 0x80 cs
    | '\\' :: 'u' :: '{' :: cs => dropScalar 0 0 cs
    | '\\' :: c :: cs => if isEscapeLetter c then some cs else none
    | ['\\'] => none
    | _ :: cs => some cs
    | [] => none
  match rest with
  | '\'' :: rest => some rest
  | _ => none

def byteLiteral (cs : List Char) : Option (List Char) := do
  let rest ← match cs with
    | '\\' :: 'x' :: cs => dropHex 0x100 cs
    | '\\' :: c :: cs => if isEscapeLetter c then some cs else none
    | ['\\'] => none
    | c :: cs => if c.toNat < 0x80 then some cs else none
    | [] => none
  match rest with
  | '\'' :: rest => some rest
  | _ => none

/-- Nothing of a word follows. -/
def wordBreak (cs : List Char) : Option (List Char) :=
  if cs.head?.any isWordContinue then none else some cs

/-- A suffix, after which no word goes on. -/
def numberEnd (cs : List Char) : Option (List Char) := wordBreak (dropSuffix cs)

/-- The value of an exponent: what follows it, unless it has no digit. -/
def dropExponent : Bool → Bool → List Char → Option (List Char)
  | signed, valued, c :: cs =>
    if c = '+' || c = '-' then
      if valued then some (c :: cs) else if signed then none else dropExponent true valued cs
    else if c.isDigit then dropExponent signed true cs
    else if c = '_' then dropExponent signed valued cs
    else if valued then some (c :: cs)
    else none
  | _, valued, [] => if valued then some [] else none

/-- The digits of a number with a point or an exponent. -/
def dropFloat : Bool → List Char → Option (List Char)
  | dotted, c :: cs =>
    if c.isDigit || c = '_' then dropFloat dotted cs
    else if c = '.' && !dotted then
      if cs.head?.any fun d => d = '.' || isWordStart d then none else dropFloat true cs
    else if c = 'e' || c = 'E' then
      match dropExponent false false cs with
      | some rest => some rest
      | none => if dotted then some (c :: cs) else none
    else if dotted then some (c :: cs)
    else none
  | dotted, [] => if dotted then some [] else none

/-- A number with a point or an exponent. -/
def floatLiteral : List Char → Option (List Char)
  | c :: cs => if c.isDigit then (dropFloat false cs).bind numberEnd else none
  | [] => none

/-- The digits of a whole number; `seen` tells that there was one. -/
def dropDigits (base : Nat) : Bool → List Char → Option (List Char)
  | seen, c :: cs =>
    if c = '_' then if !seen && base = 10 then none else dropDigits base seen cs
    else
      match Text.Quoted.hexDigit? c with
      | some d =>
        if d < base then dropDigits base true cs
        else if c.isDigit then none
        else if seen then some (c :: cs) else none
      | none => if seen then some (c :: cs) else none
  | seen, [] => if seen then some [] else none

def intLiteral : List Char → Option (List Char)
  | '0' :: 'x' :: cs => (dropDigits 16 false cs).bind numberEnd
  | '0' :: 'o' :: cs => (dropDigits 8 false cs).bind numberEnd
  | '0' :: 'b' :: cs => (dropDigits 2 false cs).bind numberEnd
  | cs => (dropDigits 10 false cs).bind numberEnd

/-- What follows the literal in front. -/
def dropLiteral (cs : List Char) : Option (List Char) :=
  match textLiteral cs with
  | some rest => some (dropSuffix rest)
  | none =>
    match
      (match cs with
      | 'b' :: '\'' :: cs => byteLiteral cs
      | '\'' :: cs => characterLiteral cs
      | _ => none) with
    | some rest => some (dropSuffix rest)
    | none => (floatLiteral cs).orElse fun _ => intLiteral cs

/-! ## Punctuation -/

def punctChars : List Char := "~!@#$%^&*-=+|;:,<.>/?'".toList

/-- The punctuation character in front; what starts a comment is none. -/
def cutPunctChar : List Char → Option (Char × List Char)
  | '/' :: c :: cs => if c = '/' || c = '*' then none else some ('/', c :: cs)
  | c :: cs => if punctChars.contains c then some (c, cs) else none
  | [] => none

/-- The punctuation token in front; the mark of a lifetime needs a word behind it. -/
def cutPunct (cs : List Char) : Option (TokenTree × List Char) := do
  let (c, rest) ← cutPunctChar cs
  if c = '\'' then
    let (word, after) ← cutAnyWord rest
    if after.head? = some '\'' || (after.head? = some '#' && !word.raw) then none
    return (.punct c true, rest)
  else return (.punct c (cutPunctChar rest).isSome, rest)

/-! ## Token trees -/

/-- What compilers print for an expression that they could not make sense of; it is a literal,
though it looks like a comment in parentheses. -/
def errorMark : List Char := "(/*ERROR*/)".toList

/-- The token in front; no delimiter starts one, but for that of the mark of an error. -/
def cutToken (cs : List Char) : Option (TokenTree × List Char) :=
  match (errorMark.isPrefixOf? cs).or (dropLiteral cs) with
  | some rest =>
    some (.literal (String.ofList (cs.take (cs.length - rest.length))), rest)
  | none =>
    match cutPunct cs with
    | some r => some r
    | none => (cutWord cs).map fun r => (.word r.1, r.2)

/-- A token, or one side of a group. -/
inductive Lexeme where
  | token (t : TokenTree)
  | opening (d : Delimiter)
  | closing (d : Delimiter)

def delimiter? (c : Char) : Option Lexeme :=
  match c with
  | '(' => some (.opening .paren)
  | ')' => some (.closing .paren)
  | '[' => some (.opening .bracket)
  | ']' => some (.closing .bracket)
  | '{' => some (.opening .brace)
  | '}' => some (.closing .brace)
  | _ => none

/-- The tokens of the attribute that a doc comment stands for. -/
def DocComment.lexemes (d : DocComment) : List Lexeme :=
  let (mark, text) := match d with
    | .outer text => ([], text)
    | .inner text => ([TokenTree.punct '!' false], text)
  let body := TokenTree.group .bracket
    [.word (.of "doc"), .punct '=' false, .literal (String.ofList (Text.Quoted.encodeBeforeDigits text))]
  (TokenTree.punct '#' false :: mark ++ [body]).map .token

def DocComment.text : DocComment → List Char
  | outer text | inner text => text

/-- The tokens and delimiters of a text. -/
def lexemes : Nat → List Char → Option (List Lexeme)
  | 0, _ => none
  | fuel + 1, cs =>
    match skipBlanks (fuel + 1) cs with
    | [] => some []
    | c :: cs =>
      match cutDoc (c :: cs) with
      | some (doc, rest) =>
        if hasBareReturn doc.text then none
        else (lexemes fuel rest).map (doc.lexemes ++ ·)
      | none =>
        match if errorMark.isPrefixOf (c :: cs) then none else delimiter? c with
        | some d => (lexemes fuel cs).map (d :: ·)
        | none => do
          let (t, rest) ← cutToken (c :: cs)
          return .token t :: (← lexemes fuel rest)

/-- The groups that are open, the innermost first, with the tokens that they hold so far,
the last one first. -/
abbrev Open := List (Delimiter × List TokenTree)

/-- Builds groups; `done` holds the tokens of the innermost group, the last one first. -/
def nest : Open → List TokenTree → List Lexeme → Option (List TokenTree)
  | [], done, [] => some done.reverse
  | _ :: _, _, [] => none
  | stack, done, .token t :: ls => nest stack (t :: done) ls
  | stack, done, .opening d :: ls => nest ((d, done) :: stack) [] ls
  | (e, outer) :: stack, done, .closing d :: ls =>
    if d = e then nest stack (.group d done.reverse :: outer) ls else none
  | [], _, .closing _ :: _ => none

/-- The token trees of a text; a byte-order mark in front is skipped. -/
def read (cs : List Char) : Option (List TokenTree) :=
  let cs := match cs with
    | '\ufeff' :: cs => cs
    | cs => cs
  (lexemes (cs.length + 1) cs).bind (nest [] [])

end EndpointStubs.Syntax.Lexer
