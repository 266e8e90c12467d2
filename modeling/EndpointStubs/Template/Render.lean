import EndpointStubs.Template.Filter.ByName
import EndpointStubs.Template.Progress

/-!
# Rendering templates

A template is rendered against named texts. Whatever makes no sense makes the whole rendering
fail. Expressions and statements are evaluated by an engine that bounds how deep they nest.

    render library name stmts fields = some s      `s` is what the template prints
-/

namespace EndpointStubs.Template

abbrev Library := List (String × List Stmt)

namespace Render

/-- How expressions and statements are evaluated. -/
structure Engine where
  library : Library
  eval : Expr → Render Value
  exec : List Stmt → Render Unit

namespace Engine

variable (e : Engine)

/-! ## Arguments -/

/-- The entries of a map as named arguments. -/
def namesOf (v : Value) : Render (List (String × Value)) :=
  match v.entries? with
  | some entries => return entries.filterMap fun x => x.1.string?.map fun name => (name, x.2)
  | none => failure

def arguments (args : List Arg) : Render Args :=
  args.foldlM (fun (acc : Args) arg => do
    match arg with
    | .positional a => return { acc with positional := acc.positional ++ [← e.eval a] }
    | .named name a => return acc.withName name (← e.eval a)
    | .spread a => return { acc with positional := acc.positional ++ (← orFail (← e.eval a).items?) }
    | .spreadNamed a =>
      return { acc with named? := some ((acc.named?.getD []) ++ (← namesOf (← e.eval a))) }) {}

/-! ## Bodies -/

/-- Templates are extended at most this often in a row. -/
def maxChain : Nat := 1000

/-- Renders statements, and if they extend a template, that template after them. What is printed
after the extension is dropped, up to where the other template starts. -/
def runBody (stmts : List Stmt) : Render Unit := do
  let before := (← get).parent?
  modify fun p => { p with parent? := none }
  let rec go : Nat → List Stmt → Render Unit
    | 0, _ => failure
    | n + 1, stmts => do
      e.exec stmts
      match (← get).parent? with
      | none => return
      | some parent =>
        modify fun p => { p with parent? := none, captures := p.captures.tail }
        go n parent
  go maxChain stmts
  modify fun p => { p with parent? := before }

def runBlockBody (body : List Stmt) : Render Unit := within {} (runBody e body)

/-- Replaces the stack of a block. -/
def setBlock (name : String) (b : BlockStack) : Render Unit :=
  modify fun p => { p with blocks := p.blocks.map fun x => if x.1 = name then (name, b) else x }

/-- Renders the body of a block that counts. -/
def runBlock (name : String) : Render Unit := do
  let b ← orFail ((← get).blocks.lookup name)
  let body ← orFail b.bodies[b.depth]?
  let before := (← get).current?
  modify fun p => { p with current? := some name }
  runBlockBody e body
  modify fun p => { p with current? := before }

/-- Renders the body that the current one replaces. -/
def runSuper : Render Unit := do
  let name ← orFail (← get).current?
  let b ← orFail ((← get).blocks.lookup name)
  let body ← orFail b.bodies[b.depth + 1]?
  setBlock name { b with depth := b.depth + 1 }
  runBlockBody e body
  modify fun p => { p with
    blocks := p.blocks.map fun x => if x.1 = name then (name, { x.2 with depth := b.depth }) else x }

/-! ## Macros -/

/-- What a call of a macro costs in depth beside its two frames. -/
def macroCost : Nat := 4

/-- Gives parameters their arguments, by position or by name, and leaves no argument over. -/
def matchParams (m : Macro) (usesCaller : Bool) (a : Args) : Option (List (Param × Value)) := do
  if a.positional.length > m.params.length then none
  let named := a.named?.getD []
  let values ← m.params.zipIdx.mapM fun (q, i) =>
    match a.positional[i]?, a.get? q.name with
    | some _, some _ => none
    | some v, none => some (q, v)
    | none, some v => some (q, v)
    | none, none => some (q, .undefined)
  let known := m.params.zipIdx.filterMap fun (q, i) =>
    if i < a.positional.length then none else some q.name
  if named.all fun x => known.contains x.1 || (usesCaller && x.1 = "caller") then return values
  else none

/-- Assigns parameters, the last one first; what is undefined gets the default. -/
def bindParams : List (Param × Value) → Render Unit
  | [] => return
  | (q, v) :: rest => do
    bindParams rest
    let v ← match q.default?, v with
      | some a, .undefined => e.eval a
      | _, v => pure v
    assign q.name v

/-- What a macro prints. It sees the named texts, the names that it keeps and its parameters. -/
def callMacro (index : Nat) (usesCaller : Bool) (a : Args) : Render Value := do
  let m ← orFail (← get).macros[index]?
  let bound ← orFail (matchParams m usesCaller a)
  let before ← get
  let deep ← depth
  modify fun p => { p with
    out := ""
    captures := []
    frames := p.frames.getLast?.toList.map fun f => { behind := f.behind }
    around := deep + macroCost
    blocks := []
    current? := none
    parent? := none
    chain := [] }
  enter { kept? := m.kept? }
  checkDepth
  if usesCaller then assign "caller" ((a.get? "caller").getD .undefined)
  bindParams e bound
  e.exec m.body
  let after ← get
  set { after with
    out := before.out
    captures := before.captures
    frames := before.frames
    around := before.around
    blocks := before.blocks
    current? := before.current?
    parent? := before.parent?
    chain := before.chain
    escaping := before.escaping }
  return .string after.out before.escaping

/-! ## Functions -/

/-- Whole numbers from `start` up or down to `stop`, at most 100000. -/
def range? (start stop step : Int) : Option (List Value) :=
  if step = 0 then none
  else
    let count :=
      if step > 0 then (stop - start + step - 1) / step else (start - stop - step - 1) / -step
    if count > 100000 then none
    else some ((List.range count.toNat).map fun (i : Nat) => .int (start + (i : Int) * step))

/-- The value that a function gives. -/
def callBuiltin (f : Builtin) (a : Args) : Render Value := do
  match f with
  | .range => do
    orFail (a.atMost 3)
    let first ← orFail (a.all[0]?.bind Value.place?)
    let second? ← orFail (a.whole? 1)
    let step? ← orFail (a.whole? 2)
    let items ← match second? with
      | none => orFail (range? 0 first (step?.getD 1))
      | some stop => orFail (range? first stop (step?.getD 1))
    return .stream items
  | .dict => do
    if a.positional.length > 1 then failure
    let base ← match (⟨a.positional, none⟩ : Args).given? 0 with
      | none => pure []
      | some v => orFail v.entries?
    return .ofEntries (base ++ (a.named?.getD []).map fun x => Value.field x.1 x.2)
  | .debug =>
    match a.all with
    | [v] => return .ofString v.laidOut
    | vs => return .ofString (Value.ofList vs).laidOut
  | .space => do
    orFail (a.atMost 1)
    let names ← match a.given? 0 with
      | none => pure []
      | some v => namesOf v
    let names : Scope := names.foldl (fun s x => s.put x.1 x.2) []
    let p ← get
    set { p with spaces := p.spaces.push names }
    return .space p.spaces.size (entriesOf names)

/-! ## Calls -/

def callValue (v : Value) (a : Args) : Render Value := do
  match v with
  | .callable index _ _ usesCaller => callMacro e index usesCaller a
  | .function f => callBuiltin f a
  | _ => failure

/-- What a loop answers: whether values have changed since the last round, or one of the values
in turn. -/
def callLoop (index : Nat) (name : String) (a : Args) : Render Value := do
  let l ← orFail (← get).loops[index]?
  if name = "changed" then
    let changed := match l.watched? with
      | some vs => !(Value.sameLists Value.same vs a.all)
      | none => true
    modify fun p => { p with
      loops := p.loops.modify index fun l => { l with watched? := some a.all } }
    return .bool changed
  else if name = "cycle" then orFail a.all[l.position % a.all.length]?
  else failure

/-- The innermost loop, if it is a recursive one: its target and its body. -/
def recursive? : Render (Target × List Stmt) := do
  let l ← orFail ((← get).frames.findSome? Frame.loop?)
  orFail l.again?

/-- The order in which a value is stored, for targets of several names. -/
def unpacked? (v : Value) (n : Nat) : Option (List Value) := do
  let items ← v.objectItems?
  if items.length = n then return items else none

mutual

/-- Assigns a value to a target; several targets need as many items. -/
def assignTo : Target → Value → Render Unit
  | .name s, v => assign s v
  | .attribute a name, v => do
    match ← e.eval a with
    | .space i _ =>
      let v ← identified v
      modify fun p => { p with spaces := p.spaces.modify i (Scope.put name v) }
    | _ => failure
  | .tuple ts, v => do assignAll ts (← orFail (unpacked? v ts.length))

def assignAll : List Target → List Value → Render Unit
  | [], [] => return
  | t :: ts, v :: vs => do
    assignTo t v
    assignAll ts vs
  | _, _ => failure

end

/-- Rounds of a loop, one per item. -/
def rounds {α : Type} (index : Nat) (round : Value → Render α) :
    Value → List Value → Nat → Render (List α)
  | _, [], _ => return []
  | previous, v :: vs, position => do
    modify fun p => { p with
      loops := p.loops.modify index fun l =>
        { l with position, previous, next? := vs.head? } }
    let a ← round v
    return a :: (← rounds index round v vs (position + 1))

/-- The number of items of a value, if it is known. -/
def countOf (v : Value) (items : List Value) : Option Nat :=
  match v with
  | .list form _ => if form.isSized then some items.length else none
  | _ => some items.length

/-- A loop through the items of a value, and what its rounds give. -/
def loopOver {α : Type} (v : Value) (visible : Bool) (again? : Option (Target × List Stmt))
    (round : Value → Render α) : Render (List α) := do
  let items ← orFail v.items?
  let p ← get
  let depth := match p.frames.findSome? Frame.loop? with
    | some outer =>
      if outer.again?.isSome then (p.loops[outer.index]?.elim 0 LoopState.depth) + 1 else 0
    | none => 0
  let index := p.loops.size
  set { p with loops := p.loops.push { count? := countOf v items, depth } }
  within { loop? := some ⟨index, visible, again?⟩ } (rounds index round .undefined items 0)

/-- The loop of a target through the items of a value; whether there were any. -/
def runLoop (target : Target) (body : List Stmt) (recursive : Bool) (v : Value) : Render Bool := do
  let rounds ← loopOver v true (if recursive then some (target, body) else none) fun item => do
    assignTo e target item
    e.exec body
  return !rounds.isEmpty

/-- The innermost loop again, for the items of a value. -/
def recurse (a : Args) : Render Unit := do
  match a.all with
  | [v] =>
    let (target, body) ← recursive?
    discard (runLoop e target body true v)
  | _ => failure

def callName (name : String) (a : Args) : Render Value := do
  if name = "super" then
    if !a.all.isEmpty then failure
    beginCapture
    runSuper e
    endCapture
  else
    match ← lookup name with
    | .loop .. =>
      if name = "loop" then
        beginCapture
        recurse e a
        endCapture
      else failure
    | v => callValue e v a

/-- The value of a call, with a macro to be called back if there is one. -/
def call (f : Expr) (args : List Arg) (caller? : Option Value) : Render Value := do
  let arguments : Render Args := do
    let a ← arguments e args
    return caller?.elim a (a.withName "caller")
  match f with
  | .var name => callName e name (← arguments)
  | .attribute (.var "self") block =>
    beginCapture
    if (← get).parent?.isNone then runBlock e block
    endCapture
  | .attribute a name =>
    let v ← e.eval a
    let args ← arguments
    match v with
    | .loop index .. => callLoop index name args
    | .string .. => failure
    | v => callValue e (← orFail (v.get? (.ofString name))) args
  | f =>
    let v ← e.eval f
    callValue e v (← arguments)

/-! ## Operators -/

def binary? : BinaryOp → Value → Value → Option Value
  | .add, a, b => Value.add? a b
  | .sub, a, b => Value.sub? a b
  | .concat, a, b => some (.ofString (a.text ++ b.text))
  | .mul, a, b => Value.mul? a b
  | .div, a, b => Value.div? a b
  | .floorDiv, a, b => Value.floorDiv? a b
  | .rem, a, b => Value.rem? a b
  | .pow, a, b => Value.pow? a b

def compare? : CompareOp → Value → Value → Option Bool
  | .eq, a, b => some (Value.same a b)
  | .ne, a, b => some !(Value.same a b)
  | .lt, a, b => some (Value.order a b = .lt)
  | .le, a, b => some (Value.order a b ≠ .gt)
  | .gt, a, b => some (Value.order a b = .gt)
  | .ge, a, b => some (Value.order a b ≠ .lt)
  | .contained, a, b => Value.contains? b a
  | .notContained, a, b => (Value.contains? b a).map not

/-- A chain of comparisons, up to the first that fails. -/
def compareChain (v : Value) : List (CompareOp × Expr) → Render Bool
  | [] => return true
  | (op, b) :: rest => do
    let w ← e.eval b
    if ← orFail (compare? op v w) then compareChain w rest else return false

def bound (a? : Option Expr) : Render (Option Int) := do
  match a? with
  | none => return none
  | some a =>
    match ← e.eval a with
    | .none => return none
    | v => return some (← orFail v.place?)

/-- Filters nest at most this deep. -/
def filterDepth : Nat := 20

def applyFilter (name : String) (v : Value) (a : Args) : Render Value := do
  orFail (Filter.run? (← get).escaping filterDepth name v a)

def evalExpr : Expr → Render Value
  | .none => return .none
  | .bool b => return .bool b
  | .int n => return .int n
  | .float x => return .float x
  | .string s => return .ofString s
  | .var name => lookup name
  | .list items => do identified (.ofList (← items.mapM e.eval))
  | .map entries => do
    let entries ← entries.mapM fun x => do return (← e.eval x.1, ← e.eval x.2)
    identified (.ofEntries entries)
  | .unary .not a => return .bool !(← e.eval a).truthy
  | .unary .negate a => do orFail (← e.eval a).negate?
  | .or a b => do
    let v ← e.eval a
    if v.truthy then return v else e.eval b
  | .and a b => do
    let v ← e.eval a
    if v.truthy then e.eval b else return v
  | .compare a rest => do
    let v ← e.eval a
    return .bool (← compareChain e v rest)
  | .binary op a b => do
    let v ← e.eval a
    let w ← e.eval b
    orFail (binary? op v w)
  | .cond test a b? => do
    if (← e.eval test).truthy then e.eval a
    else
      match b? with
      | some b => e.eval b
      | none => return .undefined
  | .filter name a args => do
    let v ← e.eval a
    applyFilter name v (← arguments e args)
  | .test name a args => do
    let v ← e.eval a
    return .bool (← orFail (Test.run? name v (← arguments e args)))
  | .attribute a name => do orFail ((← e.eval a).attribute? name)
  | .item a key => do
    let v ← e.eval a
    orFail (v.item? (← e.eval key))
  | .slice a start? stop? step? => do
    let v ← e.eval a
    let start? ← bound e start?
    let stop? ← bound e stop?
    let step? ← bound e step?
    orFail (v.slice? start? stop? (step?.getD 1))
  | .call f args => call e f args none

/-! ## Statements -/

def filtered (filters : List FilterCall) (v : Value) : Render Value :=
  filters.foldlM (fun v f => do applyFilter f.1 v (← arguments e f.2)) v

def emit (v : Value) : Render Unit := do
  if (← get).escaping && !v.isSafe then print (String.ofList (Words.escape v.chars))
  else print v.text

/-- A loop whose items may have to meet a condition, which sees each item under the loop's names
in a loop of its own. -/
def runFor (target : Target) (iter : Expr) (cond? : Option Expr) (recursive : Bool)
    (body otherwise : List Stmt) : Render Unit := do
  let v ← e.eval iter
  let v ← match cond? with
    | none => pure v
    | some cond => do
      let met ← loopOver v false none fun item => do
        assignTo e target item
        return if (← e.eval cond).truthy then some item else none
      pure (.ofList (met.filterMap id))
  if !(← runLoop e target body recursive v) then e.exec otherwise

/-- How values are escaped after a word or a truth value. -/
def escaping? (v : Value) : Option Bool :=
  match v.string? with
  | some "html" => some true
  | some "none" => some false
  | some _ => none
  | none => some (Value.same v (.bool true))

/-- The blocks of a template, each with one body. -/
def blocksOf (stmts : List Stmt) : List (String × BlockStack) :=
  (stmts.flatMap Stmt.blocks).map fun b => (b.1, ⟨[b.2], 0⟩)

/-- Adds the bodies that an extended template gives to blocks. -/
def inherit (stmts : List Stmt) (blocks : List (String × BlockStack)) :
    List (String × BlockStack) :=
  (stmts.flatMap Stmt.blocks).foldl (fun acc b =>
    if (acc.lookup b.1).isSome then
      acc.map fun x => if x.1 = b.1 then (x.1, { x.2 with bodies := x.2.bodies ++ [b.2] }) else x
    else acc ++ [(b.1, ⟨[b.2], 0⟩)]) blocks

/-- Starts to extend a template: once, and no template that the chain has already. -/
def extend (parent : Value) : Render Unit := do
  let p ← get
  if p.parent?.isSome then failure
  let name ← orFail parent.string?
  if p.chain.contains name then failure
  let stmts ← orFail (e.library.lookup name)
  set { p with
    parent? := some stmts
    chain := name :: p.chain
    blocks := inherit stmts p.blocks }
  beginDropping

/-- What an included template costs in depth. -/
def includeCost : Nat := 10

/-- Renders a template in the present scope, with its own blocks and without escaping. -/
def runIncluded (stmts : List Stmt) : Render Unit := do
  let before ← get
  let keeping? := before.frames.head?.bind Frame.keeping?
  modify fun p => { p with
    escaping := false
    blocks := blocksOf stmts
    around := p.around + includeCost }
  checkDepth
  changeTop fun f => { f with keeping? := none }
  runBody e stmts
  changeTop fun f => { f with keeping? := keeping? }
  modify fun p => { p with
    escaping := before.escaping
    blocks := before.blocks
    around := before.around }

/-- Renders the first template that there is of a name or of a list of names. -/
def runInclude (source : Value) (ignoreMissing : Bool) : Render Unit := do
  let choices := source.objectItems?.getD [source]
  let rec firstOf : List Value → Render Unit
    | [] => if ignoreMissing || choices.isEmpty then return else failure
    | choice :: rest => do
      let name ← orFail choice.string?
      match e.library.lookup name with
      | some stmts => runIncluded e stmts
      | none => firstOf rest
  firstOf choices

def execStmt : Stmt → Render Unit
  | .text s => print s
  | .emit (.call (.attribute (.var "self") block) _) => do
    if (← get).parent?.isNone && !(← isDropping) then runBlock e block
  | .emit (.call (.var "super") []) => runSuper e
  | .emit a => do emit (← e.eval a)
  | .forEach target iter cond? recursive body otherwise =>
    runFor e target iter cond? recursive body otherwise
  | .ifElse test body otherwise => do
    if (← e.eval test).truthy then e.exec body else e.exec otherwise
  | .within assigned body => within {} do
    assigned.forM fun (t, a) => do assignTo e t (← e.eval a)
    e.exec body
  | .set target a => do assignTo e target (← e.eval a)
  | .setBlock target filters body => do
    beginCapture
    e.exec body
    let v ← endCapture
    assignTo e target (← filtered e filters v)
  | .filterBlock filters body => do
    beginCapture
    e.exec body
    let v ← endCapture
    emit (← filtered e filters v)
  | .escapeBlock enabled body => do
    let before := (← get).escaping
    let escaping ← orFail (escaping? (← e.eval enabled))
    modify fun p => { p with escaping }
    e.exec body
    modify fun p => { p with escaping := before }
  | .block name required _ => do
    if (← get).parent?.isSome || (← isDropping) then return
    if required && ((← get).blocks.lookup name).all fun b => b.bodies.length ≤ 1 then failure
    runBlock e name
  | .extending parent => do extend e (← e.eval parent)
  | .include source ignoreMissing => do runInclude e (← e.eval source) ignoreMissing
  | .importAll source target => do
    beginCapture
    enter {}
    runInclude e (← e.eval source) false
    let printed ← endCapture
    let names := ((← get).frames.head?.map Frame.names).getD []
    leave
    assignTo e target (.unit (entriesOf names) printed.text)
  | .importNames source names => do
    beginDropping
    enter {}
    runInclude e (← e.eval source) false
    let values ← names.mapM fun x => lookup x.1
    leave
    (names.zip values).reverse.forM fun x => assign x.1.2 x.2
    discard endCapture
  | .define name params body => do assign name (← newMacro name params body)
  | .callBlock f args params body => do
    let caller ← newMacro "caller" params body
    emit (← call e f args (some caller))
  | .evaluate f args => discard (call e f args none)

end Engine

/-- The engine for expressions and statements that nest at most `depth` deep. -/
def engine (library : Library) : Nat → Engine
  | 0 => ⟨library, fun _ => failure, fun _ => failure⟩
  | depth + 1 => {
      library
      eval := fun a => (engine library depth).evalExpr a
      exec := fun stmts => stmts.forM fun s => (engine library depth).execStmt s }

end Render

/-- What a template of a library prints for named texts. -/
def render (library : Library) (name : String) (fields : List (String × String)) :
    Option String := do
  let stmts ← library.lookup name
  let e := Render.engine library 100000
  let start : Progress := {
    frames := [{ behind := fields.map fun f => (f.1, .ofString f.2) }]
    blocks := Render.Engine.blocksOf stmts
    chain := [name] }
  let (_, p) ← (e.runBody stmts).run start
  return p.out

end EndpointStubs.Template
