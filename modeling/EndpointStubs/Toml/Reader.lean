import EndpointStubs.Toml.Strings
import EndpointStubs.Toml.Table

/-!
# Reading TOML

A document is a list of lines: headers, assignments, comments. Of the values, texts, tables
and arrays without items are known; settings need no other, so the rest is refused.
-/

namespace EndpointStubs.Toml

/-! ## Keys -/

/-- A character of a key without quotes. -/
def isKeyChar (c : Char) : Bool :=
  ('a' ≤ c && c ≤ 'z') || ('A' ≤ c && c ≤ 'Z') || ('0' ≤ c && c ≤ '9') || c = '_' || c = '-'

def readKeyStep (cs : List Char) : Option (String × List Char) :=
  match readShort cs with
  | some (key, rest) => some (String.ofList key, rest)
  | none =>
    match cs.span isKeyChar with
    | ([], _) => none
    | (key, rest) => some (String.ofList key, rest)

/-- A key: steps with dots between, blanks around each. -/
def readKey : Nat → List Char → Option (List String × List Char)
  | 0, _ => none
  | fuel + 1, cs => do
    let (step, cs) ← readKeyStep (cs.dropWhile isBlank)
    match cs.dropWhile isBlank with
    | '.' :: cs =>
      let (steps, cs) ← readKey fuel cs
      return (step :: steps, cs)
    | cs => return ([step], cs)

/-! ## Values -/

/-- Without the comment in front. -/
def dropComment : List Char → List Char
  | '#' :: cs => cs.dropWhile isPlain
  | cs => cs

/-- Without blanks, comments and line ends in front. -/
def dropSpace : Nat → List Char → List Char
  | 0, cs => cs
  | fuel + 1, cs =>
    let cs := dropComment (cs.dropWhile isBlank)
    match cutLineEnd? cs with
    | some rest => dropSpace fuel rest
    | none => cs

mutual

def readValue : Nat → List Char → Option (Value × List Char)
  | 0, _ => none
  | fuel + 1, cs =>
    match cs with
    | '[' :: cs =>
      match dropSpace (cs.length + 1) cs with
      | ']' :: cs => some (.emptyArray, cs)
      | _ => none
    | '{' :: cs => (readInline fuel [] cs).map fun r => (.table .inline r.1, r.2)
    | cs => (readString cs).map fun r => (.text (String.ofList r.1), r.2)

/-- The rest of an inline table. -/
def readInline : Nat → Entries → List Char → Option (Entries × List Char)
  | 0, _, _ => none
  | fuel + 1, es, cs =>
    match dropSpace (cs.length + 1) cs with
    | '}' :: cs => some (es, cs)
    | cs => do
      let (key, cs) ← readKey (cs.length + 1) cs
      match cs with
      | '=' :: cs =>
        let (v, cs) ← readValue fuel (cs.dropWhile isBlank)
        let es ← es.put key v
        match dropSpace (cs.length + 1) cs with
        | ',' :: cs => readInline fuel es cs
        | '}' :: cs => return (es, cs)
        | _ => none
      | _ => none

end

/-! ## Documents -/

/-- The end of a line: blanks, perhaps a comment, and then a line end or the end of all. -/
def readLineEnd (cs : List Char) : Option (List Char) :=
  match dropComment (cs.dropWhile isBlank) with
  | [] => some []
  | cs => cutLineEnd? cs

/-- A document's lines; `header` is the table to which assignments belong. -/
def readLines : Nat → List String → Entries → List Char → Option Entries
  | 0, _, _, _ => none
  | fuel + 1, header, es, cs =>
    match cs.dropWhile isBlank with
    | [] => some es
    | '[' :: cs => do
      let (key, cs) ← readKey (cs.length + 1) cs
      match cs with
      | ']' :: cs =>
        let es ← es.define key
        let cs ← readLineEnd cs
        readLines fuel key es cs
      | _ => none
    | c :: cs =>
      if c = '#' || c = '\n' || c = '\r' then
        (readLineEnd (c :: cs)).bind (readLines fuel header es)
      else do
        let (key, cs) ← readKey (cs.length + 2) (c :: cs)
        match cs with
        | '=' :: cs =>
          let (v, cs) ← readValue (cs.length + 1) (cs.dropWhile isBlank)
          let es ← es.putBelow header key v
          let cs ← readLineEnd cs
          readLines fuel header es cs
        | _ => none

/-- The entries of a document; a byte-order mark in front is skipped. -/
def read (s : String) : Option Entries :=
  let cs := match s.toList with
    | '\ufeff' :: cs => cs
    | cs => cs
  readLines (cs.length + 1) [] [] cs

end EndpointStubs.Toml
