import EndpointStubs.Artifact.Builtin
import EndpointStubs.Proofs.Syntax.Piece

/-!
# The layout of a stub

The text of a stub is a row of pieces: remarks, a structure, and an implementation with two
constants and four functions. They fit together, whatever the names and texts in them are.
-/

namespace EndpointStubs.StubData

open Syntax

/-! ## Pieces that recur -/

def space : Piece := .blank ' '

/-- The end of a line, and the indentation of the next one. -/
def newLine (depth : Nat) : List Piece := .blank '\n' :: List.replicate (4 * depth) space

/-- Words, with a blank after each. -/
def words (ws : List Word) : List Piece := ws.flatMap fun w => [.word w, space]

def pathOf (first : Word) (more : List Word) : List Piece :=
  .word first :: more.flatMap fun w => [.punct ':' true, .punct ':' false, .word w]

/-- The lifetime of a stub in angle brackets. -/
def lifetimes (joint : Bool) : List Piece :=
  [.punct '<' true, .lifetime (.of "a"), .punct '>' joint]

/-- An argument or a field with the type that follows. -/
def typed (name : Word) : List Piece := [.word name, .punct ':' false, space]

/-- A block in braces, one line after the other; an empty line is not indented. -/
def block (depth : Nat) (lines : List (List Piece)) : Piece :=
  .group .brace ((lines.flatMap fun line =>
    newLine (if line.isEmpty then 0 else depth + 1) ++ line) ++ newLine depth)

theorem treesAll_newLine (depth : Nat) : Piece.treesAll (newLine depth) = [] := by
  have h (n : Nat) : Piece.treesAll (List.replicate n space) = [] := by
    induction n with
    | zero => rfl
    | succ n ih => exact ih
  exact h _

/-- Where lines end says nothing. -/
theorem trees_block (depth : Nat) (lines : List (List Piece)) :
    (block depth lines).trees = [.group .brace (lines.flatMap Piece.treesAll)] := by
  rw [block, Piece.trees, Piece.treesAll_append, treesAll_newLine, List.append_nil]
  congr 2
  induction lines with
  | nil => rfl
  | cons line lines ih =>
    rw [List.flatMap_cons, Piece.treesAll_append, ih, Piece.treesAll_append, treesAll_newLine]
    rfl

/-! ## The parts of a stub -/

def classItem (className : String) (h : IsName className) : List Piece :=
  .doc " Stubs `GET` on [`Self::resource`]." :: newLine 0 ++ words [.of "pub", .of "struct"] ++
    .spelled _ _ h.spells :: lifetimes false ++
    [space, block 0
      [typed (.of "base") ++ .word (.of "StubBase") :: lifetimes true ++ [.punct ',' false]]]

def constant (name : Word) (text : String) : List Piece :=
  words [.of "pub", .of "const"] ++ typed name ++
    [.punct '&' true, .lifetime (.of "static"), space, .word (.of "str"), space,
      .punct '=' false, space, .quoted text, .punct ';' false]

def result (name : Word) : List Piece :=
  [space, .punct '-' true, .punct '>' false, space, .word name, space]

def newFunction : List Piece :=
  words [.of "pub", .of "fn"] ++ .word (.of "new") ::
    .group .paren (typed (.of "server") ++ [.punct '&' true, .lifetime (.of "a"), space] ++
      pathOf (.of "wiremock") [.of "MockServer"]) :: result (.of "Self") ++
    [block 1 [words [.of "Self"] ++ [block 2
      [typed (.of "base") ++ pathOf (.of "StubBase") [.of "new"] ++
        [.group .paren [.word (.of "server")], .punct ',' false]]]]]

def resourceFunction : List Piece :=
  words [.of "pub", .of "fn"] ++ .word (.of "resource") :: .group .paren [] ::
    result (.of "String") ++
    [block 1 [[.word (.of "format"), .punct '!' false,
      .group .paren (.quoted "\x7b\x7d\x7b\x7d" :: .punct ',' false :: space ::
        pathOf (.of "Self") [.of "ROOT_RESOURCE"] ++ .punct ',' false :: space ::
        pathOf (.of "Self") [.of "SUB_RESOURCE"])]]]

/-- A method with the status among its parameters. -/
def method (doc : String) {name : List Char} {ts : List TokenTree} (h : Spells name ts)
    (params : List Piece) (body : List (List Piece)) : List (List Piece) :=
  [[.doc doc],
   words [.of "pub", .of "async", .of "fn"] ++ .spelled name ts h ::
    .group .paren ([.punct '&' false, .word (.of "self"), .punct ',' false, space] ++
      typed (.of "status") ++ .word (.of "u16") :: params) :: space :: [block 1 body]]

/-- The call of the base, with a body. -/
def stubCall (body : Word) : List Piece :=
  [.word (.of "self"), .punct '.' false, .word (.of "base"), .punct '.' false, .word (.of "stub"),
    .group .paren (.quoted "GET" :: .punct ',' false :: space :: .punct '&' false ::
      pathOf (.of "Self") [.of "resource"] ++ [.group .paren [], .punct ',' false, space,
        .word (.of "status"), .punct ',' false, space, .word body]),
    .punct '.' false, .word (.of "await"), .punct ';' false]

def bodyOfResponse : List Piece :=
  words [.of "let", .of "body"] ++ [.punct '=' false, space] ++
    pathOf (.of "serde_json") [.of "to_value"] ++
    [.group .paren [.word (.of "response")], .punct '.' false, .word (.of "ok"), .group .paren [],
      .punct ';' false]

/-! ## The whole -/

/-- The class of a stub has a name, and its methods and its response type, borrowed, have the given
token trees. -/
structure Legible (d : StubData) (name statusName ts : List TokenTree) : Prop where
  className : IsName d.stubClassName
  methodName : Spells d.methodName.toList name
  statusName : Spells (d.methodName ++ "WithStatus").toList statusName
  response : ReadsInParens ('&' :: d.responseType.toList) ts
  generated : IsRemark (" @generated by stubgen as `" ++ d.stubName ++ "`. Do not edit.")
  companion : IsRemark (" Include in the same module as `" ++ d.stubBaseFullName ++ "`.")

theorem isRemark_empty : IsRemark "" := by
  constructor <;> decide

section
variable {d : StubData} {name statusName ts : List TokenTree} (h : d.Legible name statusName ts)

def remarks : List Piece :=
  .remark _ h.generated :: newLine 0 ++ .remark "" isRemark_empty :: newLine 0 ++
    .remark _ h.companion :: newLine 0 ++ newLine 0

/-- The text of what documents the method with a response. -/
def responseDoc : String := " Answer `GET` with `status` and `response` serialized as JSON."

/-- The text of what documents the method without one. -/
def statusDoc : String := " Answer `GET` with `status` and an empty body."

def responseMethod : List (List Piece) :=
  method responseDoc h.methodName
    (.punct ',' false :: space :: typed (.of "response") ++ [.embedded _ ts h.response])
    [bodyOfResponse, stubCall (.of "body")]

def statusMethod : List (List Piece) :=
  method statusDoc h.statusName [] [stubCall (.of "None")]

def implementation : List Piece :=
  [.punct '#' false, .group .bracket
      [.word (.of "allow"), .group .paren [.word (.of "non_snake_case")]]] ++
    newLine 0 ++ .word (.of "impl") :: lifetimes false ++ space ::
    .spelled _ _ h.className.spells :: lifetimes false ++
    [space, block 0 ([constant (.of "ROOT_RESOURCE") d.rootResource,
      constant (.of "SUB_RESOURCE") d.subResource, [], newFunction, [], resourceFunction, []] ++
      responseMethod h ++ [] :: statusMethod h)]

def source : List Piece :=
  remarks h ++ classItem d.stubClassName h.className ++ newLine 0 ++ newLine 0 ++ implementation h

set_option maxRecDepth 20000 in
/-- Each part of a stub ends where the next one starts. -/
theorem fitsAll_source : Piece.fitsAll none (source h) = true := by
  rfl

set_option maxRecDepth 20000 in
/-- The lines of a stub are the characters of its parts. -/
theorem charsAll_source (hr : d.rootResourceLiteral = Text.Quoted.quote d.rootResource)
    (hs : d.subResourceLiteral = Text.Quoted.quote d.subResource) :
    (Text.joinStrings "\n" d.lines).toList = Piece.charsAll (source h) := by
  simp only [lines, hr, hs, Text.joinStrings, Text.join, Text.Quoted.quote, List.map_cons,
    List.map_nil, String.toList_append, String.toList_ofList, String.reduceToList,
    source, remarks, classItem, implementation, constant, newFunction, resourceFunction,
    responseMethod, responseDoc, statusMethod, statusDoc, method, bodyOfResponse, stubCall,
    block, newLine, words, typed, pathOf, lifetimes, result, space,
    Piece.charsAll_append, Piece.charsAll, Piece.chars, List.flatMap_cons, List.flatMap_nil,
    List.cons_append, List.nil_append, List.append_nil, List.append_assoc]
  rfl

end

end EndpointStubs.StubData
