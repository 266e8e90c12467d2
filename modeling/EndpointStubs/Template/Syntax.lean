/-!
# The syntax of templates

Expressions have values, statements print and assign. A template is a list of statements.
-/

namespace EndpointStubs.Template

inductive UnaryOp where
  | negate
  | not
  deriving DecidableEq, Repr

/-- Operators that need both operands. -/
inductive BinaryOp where
  | add
  | sub
  | concat
  | mul
  | div
  | floorDiv
  | rem
  | pow
  deriving DecidableEq, Repr

/-- Operators of comparisons, which may be chained. -/
inductive CompareOp where
  | eq
  | ne
  | lt
  | le
  | gt
  | ge
  | contained
  | notContained
  deriving DecidableEq, Repr

mutual

inductive Expr where
  | none
  | bool (b : Bool)
  | int (n : Nat)
  | float (x : Float)
  | string (s : String)
  | var (name : String)
  | list (items : List Expr)
  | map (entries : List (Expr × Expr))
  | unary (op : UnaryOp) (a : Expr)
  | binary (op : BinaryOp) (a b : Expr)
  | or (a b : Expr)
  | and (a b : Expr)
  /-- Each neighbour compares. -/
  | compare (a : Expr) (rest : List (CompareOp × Expr))
  | cond (test a : Expr) (b? : Option Expr)
  | filter (name : String) (a : Expr) (args : List Arg)
  | test (name : String) (a : Expr) (args : List Arg)
  | attribute (a : Expr) (name : String)
  | item (a key : Expr)
  | slice (a : Expr) (start? stop? step? : Option Expr)
  | call (f : Expr) (args : List Arg)

inductive Arg where
  | positional (a : Expr)
  | named (name : String) (a : Expr)
  /-- All items of a list. -/
  | spread (a : Expr)
  /-- All entries of a map. -/
  | spreadNamed (a : Expr)

end

instance : Inhabited Expr := ⟨.none⟩

/-- What a value can be assigned to. -/
inductive Target where
  | name (s : String)
  /-- An attribute of a namespace. -/
  | attribute (a : Expr) (name : String)
  | tuple (ts : List Target)

instance : Inhabited Target := ⟨.tuple []⟩

/-- A parameter of a macro, with its default. -/
structure Param where
  name : String
  default? : Option Expr

abbrev FilterCall := String × List Arg

inductive Stmt where
  | text (s : String)
  | emit (a : Expr)
  | forEach (target : Target) (iter : Expr) (cond? : Option Expr) (recursive : Bool)
      (body otherwise : List Stmt)
  | ifElse (test : Expr) (body otherwise : List Stmt)
  | within (assigned : List (Target × Expr)) (body : List Stmt)
  | set (target : Target) (a : Expr)
  /-- Assigns a rendered body, through filters if there are any. -/
  | setBlock (target : Target) (filters : List FilterCall) (body : List Stmt)
  | filterBlock (filters : List FilterCall) (body : List Stmt)
  | escapeBlock (enabled : Expr) (body : List Stmt)
  /-- A part that an extending template can replace; it has to, if the part is required. -/
  | block (name : String) (required : Bool) (body : List Stmt)
  | extending (parent : Expr)
  | include (source : Expr) (ignoreMissing : Bool)
  | importAll (source : Expr) (target : Target)
  | importNames (source : Expr) (names : List (String × String))
  | define (name : String) (params : List Param) (body : List Stmt)
  | callBlock (f : Expr) (args : List Arg) (params : List Param) (body : List Stmt)
  | evaluate (f : Expr) (args : List Arg)

instance : Inhabited Stmt := ⟨.text ""⟩

/-! ## Blocks and macros inside statements -/

/-- The blocks that a statement defines, at any depth. -/
def Stmt.blocks : Stmt → List (String × List Stmt)
  | block name _ body => (name, body) :: body.flatMap blocks
  | forEach _ _ _ _ body otherwise => body.flatMap blocks ++ otherwise.flatMap blocks
  | ifElse _ body otherwise => body.flatMap blocks ++ otherwise.flatMap blocks
  | within _ body | setBlock _ _ body | filterBlock _ body | escapeBlock _ body =>
    body.flatMap blocks
  | define _ _ body | callBlock _ _ _ body => body.flatMap blocks
  | _ => []

/-- The bodies of the macros that a statement defines, at any depth. -/
def Stmt.macroBodies : Stmt → List (List Stmt)
  | define _ _ body | callBlock _ _ _ body => body :: body.flatMap macroBodies
  | block _ _ body | within _ body | setBlock _ _ body | filterBlock _ body | escapeBlock _ body =>
    body.flatMap macroBodies
  | forEach _ _ _ _ body otherwise => body.flatMap macroBodies ++ otherwise.flatMap macroBodies
  | ifElse _ body otherwise => body.flatMap macroBodies ++ otherwise.flatMap macroBodies
  | _ => []

/-- No block is defined twice, and none inside a macro. -/
def wellFormed (stmts : List Stmt) : Bool :=
  let names := (stmts.flatMap Stmt.blocks).map Prod.fst
  names.eraseDups.length = names.length &&
    (stmts.flatMap Stmt.macroBodies).all fun body => (body.flatMap Stmt.blocks).isEmpty

end EndpointStubs.Template
