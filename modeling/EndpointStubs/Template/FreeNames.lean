import EndpointStubs.Template.Syntax

/-!
# Names that a macro takes from outside

A macro keeps the values of the names that it uses without assigning them first. A name counts
as assigned from its assignment to the end of the scope, also where a condition might skip the
assignment.

    n ∈ freeNames params body     the macro reads `n` from where it is defined
-/

namespace EndpointStubs.Template

mutual

def Expr.names : Expr → List String
  | .var name => [name]
  | .list items => namesOfAll items
  | .map entries => namesOfEntries entries
  | .unary _ a | .attribute a _ => a.names
  | .binary _ a b | .or a b | .and a b | .item a b => a.names ++ b.names
  | .compare a rest => a.names ++ namesOfCompared rest
  | .cond test a b? => test.names ++ a.names ++ namesOfOption b?
  | .filter _ a args | .test _ a args | .call a args => a.names ++ namesOfArgs args
  | .slice a start? stop? step? =>
    a.names ++ namesOfOption start? ++ namesOfOption stop? ++ namesOfOption step?
  | .none | .bool _ | .int _ | .float _ | .string _ => []

def Arg.names : Arg → List String
  | .positional a | .named _ a | .spread a | .spreadNamed a => a.names

def namesOfAll : List Expr → List String
  | [] => []
  | a :: as => a.names ++ namesOfAll as

def namesOfEntries : List (Expr × Expr) → List String
  | [] => []
  | (k, v) :: es => k.names ++ v.names ++ namesOfEntries es

/-- The names that the further operands of a comparison read. -/
def namesOfCompared : List (CompareOp × Expr) → List String
  | [] => []
  | (_, a) :: rest => a.names ++ namesOfCompared rest

def namesOfArgs : List Arg → List String
  | [] => []
  | a :: as => a.names ++ namesOfArgs as

/-- The names that an expression reads, if there is one. -/
def namesOfOption : Option Expr → List String
  | none => []
  | some a => a.names

end

def Target.names : Target → List String
  | .name s => [s]
  | .attribute .. => []
  | .tuple ts => namesOfTargets ts
where
  /-- The names that targets assign. -/
  namesOfTargets : List Target → List String
    | [] => []
    | t :: ts => t.names ++ namesOfTargets ts

def namesOfFilters (fs : List FilterCall) : List String := fs.flatMap fun f => namesOfArgs f.2

/-- Names that are read and not assigned, and what is assigned afterwards. -/
structure Usage where
  free : List String
  assigned : List String

namespace Usage

def read (u : Usage) (names : List String) : Usage :=
  { u with free := u.free ++ names.filter fun n => !u.assigned.contains n }

def assign (u : Usage) (names : List String) : Usage := { u with assigned := names ++ u.assigned }

/-- After a scope of its own: what it assigns is forgotten. -/
def leaving (u inner : Usage) : Usage := ⟨inner.free, u.assigned⟩

/-- The parameters of a macro and their defaults. -/
def parameters (u : Usage) (params : List Param) : Usage :=
  let u := u.assign (params.map Param.name)
  u.read (params.flatMap fun q => namesOfOption q.default?)

mutual

def stmt (u : Usage) : Stmt → Usage
  | .text _ | .extending _ | .include _ _ => u
  | .emit a => u.read a.names
  | .forEach target iter cond? _ body otherwise =>
    let inner := (((u.assign ["loop"]).read iter.names).assign target.names).read (namesOfOption cond?)
    let u := u.leaving (inner.stmts body)
    u.leaving (u.stmts otherwise)
  | .ifElse test body otherwise =>
    let u := u.read test.names
    let u := u.leaving (u.stmts body)
    u.leaving (u.stmts otherwise)
  | .within assigned body =>
    let inner := assigned.foldl (fun u (x : Target × Expr) => (u.assign x.1.names).read x.2.names) u
    u.leaving (inner.stmts body)
  | .set target a => (u.assign target.names).read a.names
  | .setBlock target filters body =>
    let u := u.assign target.names
    (u.leaving (u.stmts body)).read (namesOfFilters filters)
  | .filterBlock filters body => (u.leaving (u.stmts body)).read (namesOfFilters filters)
  | .escapeBlock enabled body => u.leaving ((u.read enabled.names).stmts body)
  | .block _ _ body => u.leaving ((u.assign ["super"]).stmts body)
  | .importAll _ target => u.assign target.names
  | .importNames _ names => u.assign (names.map Prod.snd)
  | .define name params body => ((u.assign [name]).parameters params).stmts body
  | .callBlock f args params body =>
    ((u.read (f.names ++ namesOfArgs args)).parameters params).stmts body
  | .evaluate f args => u.read (f.names ++ namesOfArgs args)

def stmts (u : Usage) : List Stmt → Usage
  | [] => u
  | s :: ss => (u.stmt s).stmts ss

end

end Usage

/-- The names that a macro reads without assigning them. -/
def freeNames (params : List Param) (body : List Stmt) : List String :=
  (((⟨[], []⟩ : Usage).parameters params).stmts body).free

end EndpointStubs.Template
