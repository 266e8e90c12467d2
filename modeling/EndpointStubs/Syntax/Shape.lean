import EndpointStubs.Syntax.Cursor

/-!
# What is kept of parsed source

Parsing decides whether tokens are source text, and keeps of it what markers, names and
declared types need, and what the grammar itself asks for later.
-/

namespace EndpointStubs.Syntax

/-- The arguments of a segment of a path. -/
inductive SegmentArgs where
  | none
  | angle
  | parenthesized
  deriving DecidableEq, Repr

/-- A path: its segments, and what stands before them. -/
structure PathShape where
  /-- Starts with a type in angle brackets. -/
  qualified : Bool
  /-- Starts with `::`. -/
  rooted : Bool
  segments : List (Word × SegmentArgs)
  deriving Repr

/-- No segment has arguments. -/
def PathShape.isPlain (p : PathShape) : Bool := p.segments.all fun s => s.2 = .none

inductive TypeShape where
  | path (p : PathShape)
  /-- Bounds: with their keyword or without, their number, whether a `+` comes last, and
  whether the first one stands in parentheses of its own. -/
  | bounds (keyword : Bool) (count : Nat) (trailing parens : Bool)
  | other

inductive ExprShape where
  | text (s : String)
  | array (items : List ExprShape)
  | range
  | comparison
  /-- Ends in a block and so needs no separator after it. -/
  | block
  | macroCall (braces : Bool)
  | other

instance : Inhabited ExprShape := ⟨.other⟩

inductive PatternShape where
  /-- `..` alone. -/
  | rest
  /-- A range without one of its ends. -/
  | openRange
  | other
  deriving DecidableEq

/-- What follows the path of an attribute. -/
inductive AttributeArgs where
  | none
  | tokens (ts : List TokenTree)
  | value (e : ExprShape)

/-- An attribute: the last segment of its path, and its arguments. -/
structure Attribute where
  name : String
  args : AttributeArgs

/-- A function with the tokens of its return type. -/
structure Function where
  attributes : List Attribute
  name : Word
  returns? : Option (List TokenTree)

inductive Item where
  /-- A structure or an enumeration. -/
  | type (attributes : List Attribute) (name : Word)
  | trait (attributes : List Attribute) (name : Word) (functions : List Function)
  /-- An implementation, with the last name of the type if that is a path. -/
  | implementation (owner? : Option Word) (functions : List Function)
  | function (f : Function)
  /-- A module with its items inside. -/
  | module (name : Word) (items : List Item)
  | other
  /-- An item that has no normal form and is kept as it stands. -/
  | asWritten

instance : Inhabited Item := ⟨.other⟩

/-- The parsers that refer to each other. -/
structure Grammar where
  /-- A type; bounds may follow with `+` or not. -/
  type : Bool → Parse TypeShape
  /-- An expression, with structure literals or without. -/
  expr : Bool → Parse ExprShape
  /-- An expression that a construct with a block ends. -/
  early : Parse ExprShape
  /-- An expression without binary operators. -/
  unary : Bool → Parse ExprShape
  /-- A pattern without alternatives. -/
  pattern : Parse PatternShape
  /-- The statements of a block. -/
  statements : Parse Unit
  item : Parse Item

end EndpointStubs.Syntax
