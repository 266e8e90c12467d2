import EndpointStubs.Template.Literal
import EndpointStubs.Text.Blank

/-!
# Tokens of templates

A template is text with tags in it: values, statements and comments. A minus sign inside a
tag's delimiter takes away the blanks on that side of the tag; raw text is kept as it is.
-/

namespace EndpointStubs.Template

/-- A piece of text, a delimiter, or a token inside a tag. -/
inductive Token where
  | text (cs : List Char)
  | openValue
  | closeValue
  | openTag
  | closeTag
  | name (s : String)
  | string (s : String)
  | int (n : Nat)
  | float (x : Float)
  | op (s : String)

namespace Token

/-- Blanks inside tags. -/
def isBlank (c : Char) : Bool := c = ' ' || c = '\t' || c = '\n' || c = '\r' || c = '\x0c'

/-! ## Inside tags -/

def isNameStart (c : Char) : Bool := c.isAlpha || c = '_'

def isNameChar (c : Char) : Bool := c.isAlphanum || c = '_'

def doubleOps : List String := ["//", "**", "==", "!=", ">=", "<="]

def singleOps : List Char :=
  ['+', '-', '*', '/', '%', '~', '.', ',', ':', '|', '=', '<', '>', '(', ')', '[', ']', '{', '}']

/-- One token inside a tag. -/
def cutToken : List Char → Option (Token × List Char)
  | [] => none
  | c :: cs =>
    let two := String.ofList ((c :: cs).take 2)
    if doubleOps.contains two then some (.op two, cs.drop 1)
    else if c = '"' || c = '\'' then
      do
        let (written, rest) ← Literal.cutString c cs
        return (.string (← Literal.unescape written), rest)
    else if singleOps.contains c then some (.op (String.ofList [c]), cs)
    else if c.isDigit then
      (Literal.cutNumber (c :: cs)).map fun r =>
        match r.1 with
        | .whole n => (.int n, r.2)
        | .double x => (.float x, r.2)
    else if isNameStart c then
      let (s, rest) := (c :: cs).span isNameChar
      some (.name (String.ofList s), rest)
    else none

/-- How a token changes the depth of brackets. -/
def depthAfter (depth : Nat) : Token → Nat
  | op s =>
    if s = "(" || s = "[" || s = "\x7b" then depth + 1
    else if s = ")" || s = "]" || s = "\x7d" then depth - 1
    else depth
  | _ => depth

/-- The end of a tag in front: what follows it, and whether it takes blanks away. -/
def cutEnd? (closing : List Char) (cs : List Char) : Option (List Char × Bool) :=
  match closing.isPrefixOf? cs with
  | some rest => some (rest, false)
  | none =>
    match cs with
    | '-' :: cs => (closing.isPrefixOf? cs).map fun rest => (rest, true)
    | '+' :: cs => (closing.isPrefixOf? cs).map fun rest => (rest, false)
    | _ => none

/-- The tokens up to the end of a tag, which counts only outside brackets. -/
def cutTag (closing : List Char) : Nat → Nat → List Char → Option (List Token × List Char × Bool)
  | 0, _, _ => none
  | fuel + 1, depth, cs =>
    let cs := cs.dropWhile isBlank
    match if depth = 0 then cutEnd? closing cs else none with
    | some (rest, trims) => some ([], rest, trims)
    | none => do
      let (t, cs) ← cutToken cs
      let (ts, rest, trims) ← cutTag closing fuel (depthAfter depth t) cs
      return (t :: ts, rest, trims)

/-! ## Around tags -/

inductive Opening where
  | value
  | tag
  | comment

/-- The text before the next tag, and how that tag opens. -/
def cutText : List Char → List Char × Option (Opening × List Char)
  | '{' :: '{' :: cs => ([], some (.value, cs))
  | '{' :: '%' :: cs => ([], some (.tag, cs))
  | '{' :: '#' :: cs => ([], some (.comment, cs))
  | c :: cs =>
    let (lead, rest) := cutText cs
    (c :: lead, rest)
  | [] => ([], none)

/-- A sign after an opening delimiter: whether it takes blanks away, and the rest. -/
def cutTrim : List Char → Bool × List Char
  | '-' :: cs => (true, cs)
  | '+' :: cs => (false, cs)
  | cs => (false, cs)

/-- What follows a comment, and whether blanks go. -/
def cutComment : List Char → Option (List Char × Bool)
  | '-' :: '#' :: '}' :: cs => some (cs, true)
  | '#' :: '}' :: cs => some (cs, false)
  | _ :: cs => cutComment cs
  | [] => none

/-- A tag that holds only a word, after its opening: what follows, and whether blanks go. -/
def cutWordTag? (word : String) (cs : List Char) : Option (List Char × Bool) := do
  let rest ← word.toList.isPrefixOf? (cs.dropWhile isBlank)
  let (trims, rest) := cutTrim (rest.dropWhile isBlank)
  let rest ← ['%', '}'].isPrefixOf? rest
  return (rest, trims)

/-- Raw text up to its closing tag: the text, whether blanks go at its end, what follows the
tag, and whether blanks go there. -/
def cutRaw : List Char → Option (List Char × Bool × List Char × Bool)
  | '{' :: '%' :: cs =>
    let (trims, inner) := cutTrim cs
    match cutWordTag? "endraw" inner with
    | some (rest, trimsNext) => some ([], trims, rest, trimsNext)
    | none => (cutRaw cs).map fun r => ('{' :: '%' :: r.1, r.2)
  | c :: cs => (cutRaw cs).map fun r => (c :: r.1, r.2)
  | [] => none

/-- A piece of text without blanks at the trimmed sides, left out if nothing remains. -/
def textToken (trimsStart trimsEnd : Bool) (cs : List Char) : List Token :=
  let cs := if trimsStart then Text.trimStart cs else cs
  let cs := if trimsEnd then Text.trimEnd cs else cs
  if cs = [] then [] else [.text cs]

/-- The tokens of a template; `trims` says that blanks in front go. -/
def scanFrom : Nat → Bool → List Char → Option (List Token)
  | 0, _, _ => none
  | fuel + 1, trims, cs =>
    match cutText cs with
    | (lead, none) => some (textToken trims false lead)
    | (lead, some (opening, rest)) => do
      let (trimsBefore, inner) := cutTrim rest
      let lead := textToken trims trimsBefore lead
      match opening with
      | .value =>
        let (ts, rest, trimsNext) ← cutTag ['}', '}'] (inner.length + 1) 0 inner
        return lead ++ .openValue :: ts ++ .closeValue :: (← scanFrom fuel trimsNext rest)
      | .comment =>
        let (rest, trimsNext) ← cutComment rest
        return lead ++ (← scanFrom fuel trimsNext rest)
      | .tag =>
        match cutWordTag? "raw" inner with
        | some (body, trimsBody) =>
          let (raw, trimsEnd, rest, trimsNext) ← cutRaw body
          return lead ++ textToken trimsBody trimsEnd raw ++ (← scanFrom fuel trimsNext rest)
        | none =>
          let (ts, rest, trimsNext) ← cutTag ['%', '}'] (inner.length + 1) 0 inner
          return lead ++ .openTag :: ts ++ .closeTag :: (← scanFrom fuel trimsNext rest)

def scan (cs : List Char) : Option (List Token) := scanFrom (cs.length + 1) false cs

end Token

end EndpointStubs.Template
