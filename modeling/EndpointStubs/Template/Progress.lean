import EndpointStubs.Template.FreeNames
import EndpointStubs.Template.Value.Item

/-!
# The progress of rendering

What is printed so far, the names in scope, and what lives as long as a template is rendered.
Names are looked up from the innermost frame outwards: among the names of the frame, then the
loop that it is of, then what lies behind it. Printed text goes to the innermost capture.

    (enter f; leave) keeps the frames           (capture; endCapture) keeps what is printed
-/

namespace EndpointStubs.Template

/-- Names with their values. -/
abbrev Scope := List (String × Value)

def Scope.put (name : String) (v : Value) : Scope → Scope
  | [] => [(name, v)]
  | e :: es => if e.1 = name then (name, v) :: es else e :: Scope.put name v es

structure LoopFrame where
  index : Nat
  /-- Can be called `loop`. -/
  visible : Bool
  /-- What a recursive loop does for each item. -/
  again? : Option (Target × List Stmt)

/-- A level of names. -/
structure Frame where
  names : Scope := []
  loop? : Option LoopFrame := none
  /-- Names that lie behind. -/
  behind : Scope := []
  /-- Names that a macro has kept lie behind, too. -/
  kept? : Option Nat := none
  /-- Where the macros of this frame keep names. -/
  keeping? : Option Nat := none

structure LoopState where
  position : Nat := 0
  count? : Option Nat
  depth : Nat
  previous : Value := .undefined
  next? : Option Value := none
  /-- What was last asked to have changed. -/
  watched? : Option (List Value) := none

/-- A macro with the place of the names that it keeps. -/
structure Macro where
  params : List Param
  body : List Stmt
  kept? : Option Nat

/-- The bodies of a block, from the extending template to the extended ones, and the one that
counts. -/
structure BlockStack where
  bodies : List (List Stmt)
  depth : Nat := 0

/-- What rendering keeps track of. -/
structure Progress where
  /-- What is printed so far. -/
  out : String := ""
  /-- Texts that are captured, the innermost first; none where what is printed is dropped. -/
  captures : List (Option String) := []
  /-- The frames, the innermost first. -/
  frames : List Frame := []
  /-- The cost of macros and included templates around the frames. -/
  around : Nat := 0
  spaces : Array Scope := #[]
  kept : Array Scope := #[]
  macros : Array Macro := #[]
  loops : Array LoopState := #[]
  /-- How many lists and maps have been given an identity. -/
  identities : Nat := 0
  blocks : List (String × BlockStack) := []
  /-- The block that is being rendered. -/
  current? : Option String := none
  /-- The template that the rendered one extends. -/
  parent? : Option (List Stmt) := none
  /-- The templates that have been extended so far, and the rendered one. -/
  chain : List String := []
  escaping : Bool := false

abbrev Render := StateT Progress Option

namespace Render

def orFail {α : Type} : Option α → Render α
  | some a => return a
  | none => failure

/-! ## Frames -/

/-- The deepest nesting of frames, macros and included templates. -/
def maxDepth : Nat := 500

/-- How deep rendering stands. -/
def depth : Render Nat := do
  let p ← get
  return p.around + p.frames.length

def checkDepth : Render Unit := do
  if (← depth) > maxDepth then failure

def enter (f : Frame) : Render Unit := do
  checkDepth
  modify fun p => { p with frames := f :: p.frames }

def leave : Render Unit := modify fun p => { p with frames := p.frames.tail }

/-- Works in a frame of its own. -/
def within {α : Type} (f : Frame) (work : Render α) : Render α := do
  enter f
  let a ← work
  leave
  return a

def changeTop (f : Frame → Frame) : Render Unit :=
  modify fun p => { p with
    frames := match p.frames with
      | [] => []
      | top :: rest => f top :: rest }

/-! ## Printing -/

/-- Prints a text where it belongs. -/
def print (s : String) : Render Unit :=
  modify fun p =>
    match p.captures with
    | [] => { p with out := p.out ++ s }
    | none :: _ => p
    | some t :: rest => { p with captures := some (t ++ s) :: rest }

def isDropping : Render Bool := do
  match (← get).captures with
  | none :: _ => return true
  | _ => return false

def beginCapture : Render Unit := modify fun p => { p with captures := some "" :: p.captures }

def beginDropping : Render Unit := modify fun p => { p with captures := none :: p.captures }

/-- The captured text, which is safe where printed values are escaped. -/
def endCapture : Render Value := do
  let p ← get
  set { p with captures := p.captures.tail }
  match p.captures with
  | some s :: _ => return .string s p.escaping
  | _ => return .undefined

/-! ## Names -/

/-- The functions that every template knows. -/
def builtin? (name : String) : Option Builtin :=
  [("range", Builtin.range), ("dict", .dict), ("debug", .debug), ("namespace", .space)].lookup name

def loopValue (index : Nat) (l : LoopState) : Value :=
  .loop index l.position l.count? l.depth l.previous l.next?

def Frame.find? (p : Progress) (name : String) (f : Frame) : Option Value :=
  (f.names.lookup name).or <|
    (do
      let l ← f.loop?
      if l.visible && name = "loop" then return loopValue l.index (← p.loops[l.index]?) else none).or <|
    (f.behind.lookup name).or <|
    do (← p.kept[← f.kept?]?).lookup name

/-- The names of a namespace as entries, in order. -/
def entriesOf (s : Scope) : List (Value × Value) := Value.sorted (s.map fun x => Value.field x.1 x.2)

mutual

/-- A value that shows the present state of namespaces and loops, to a limited depth. -/
def refreshed (p : Progress) : Nat → Value → Value
  | _, .loop i position count? depth previous next? =>
    (p.loops[i]?.map (loopValue i)).getD (.loop i position count? depth previous next?)
  | n + 1, .space i _ =>
    .space i (refreshedEntries p n (entriesOf (p.spaces[i]?.getD [])))
  | n + 1, .list form items => .list form (refreshedItems p n items)
  | n + 1, .map i entries => .map i (refreshedEntries p n entries)
  | _, v => v

/-- Values that show the present state. -/
def refreshedItems (p : Progress) : Nat → List Value → List Value
  | 0, vs => vs
  | _, [] => []
  | n + 1, v :: vs => refreshed p n v :: refreshedItems p (n + 1) vs

/-- Entries whose values show the present state. -/
def refreshedEntries (p : Progress) : Nat → List (Value × Value) → List (Value × Value)
  | 0, es => es
  | _, [] => []
  | n + 1, (k, v) :: es => (k, refreshed p n v) :: refreshedEntries p (n + 1) es

end

/-- How deep namespaces inside values are followed. -/
def followDepth : Nat := 12

def find? (name : String) : Render (Option Value) := do
  let p ← get
  let v? := (p.frames.findSome? (Frame.find? p name)).or ((builtin? name).map Value.function)
  return v?.map fun v => refreshed p (if p.spaces.isEmpty then 0 else followDepth) v

/-- The value of a name; unknown names are undefined. -/
def lookup (name : String) : Render Value := return (← find? name).getD .undefined

/-- A value with an identity, if it is of a kind that has one. -/
def identified (v : Value) : Render Value := do
  let fresh : Render Nat := do
    let p ← get
    set { p with identities := p.identities + 1 }
    return p.identities + 1
  match v with
  | .list form items =>
    if form.identity = 0 then return .list { form with identity := ← fresh } items else return v
  | .map identity entries => if identity = 0 then return .map (← fresh) entries else return v
  | v => return v

/-- Gives a name its value in the innermost frame, and among the names that its macros keep. -/
def assign (name : String) (v : Value) : Render Unit := do
  let v ← identified v
  changeTop fun f => { f with names := f.names.put name v }
  modify fun p =>
    match p.frames.head?.bind Frame.keeping? with
    | some i => { p with kept := p.kept.modify i (Scope.put name v) }
    | none => p

/-! ## Macros -/

/-- Keeps the present value of a name for the macros of the innermost frame. -/
def keep (name : String) : Render Unit := do
  let p ← get
  let i ← match p.frames.head?.bind Frame.keeping? with
    | some i => pure i
    | none => do
      set { p with kept := p.kept.push [] }
      changeTop fun f => { f with keeping? := some p.kept.size }
      pure p.kept.size
  let v ← lookup name
  modify fun p => { p with
    kept := p.kept.modify i fun s => if (s.lookup name).isSome then s else s ++ [(name, v)] }

/-- A macro, defined in the innermost frame. -/
def newMacro (name : String) (params : List Param) (body : List Stmt) : Render Value := do
  let free := (freeNames params body).eraseDups
  (free.filter (· ≠ "caller")).forM keep
  let p ← get
  set { p with macros := p.macros.push ⟨params, body, p.frames.head?.bind Frame.keeping?⟩ }
  return .callable p.macros.size name (params.map Param.name) (free.contains "caller")

end Render

end EndpointStubs.Template
