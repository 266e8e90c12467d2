import EndpointStubs.Event
import EndpointStubs.FileTree.Change

/-!
# Sessions

Work on a tree of files that may fail and that reports what it does. What was changed and
reported before a failure stays.
-/

namespace EndpointStubs

/-- The tree of files and the reports so far. -/
structure World where
  tree : FileTree
  events : List Event := []
  deriving DecidableEq

/-- Work that changes a world and may fail. -/
abbrev Session (ε : Type) := ExceptT ε (StateM World)

namespace Session

variable {ε α : Type}

/-- Runs a session: its result, and the world that it leaves. -/
def runOn (s : Session ε α) (w : World) : Except ε α × World := StateT.run (ExceptT.run s) w

def report (e : Event) : Session ε Unit := modify fun w => { w with events := w.events ++ [e] }

def reportAll (es : List Event) : Session ε Unit :=
  modify fun w => { w with events := w.events ++ es }

/-- The tree of files as it is now. -/
def tree : Session ε FileTree := return (← get).tree

def ask (cause : Fault → ε) (question : FileTree → Except Fault α) : Session ε α := do
  match question (← tree) with
  | .ok a => return a
  | .error f => throw (cause f)

def change (cause : Fault → ε) (step : FileTree → Except Fault FileTree) : Session ε Unit := do
  match step (← tree) with
  | .ok t => modify fun w => { w with tree := t }
  | .error f => throw (cause f)

/-- Fails with the given cause on an error. -/
def ofExcept {ε' : Type} (cause : ε' → ε) : Except ε' α → Session ε α
  | .ok a => return a
  | .error e => throw (cause e)

/-- The same work with its failures seen as others. -/
def mapError {ε' : Type} (cause : ε' → ε) (s : Session ε' α) : Session ε α :=
  ExceptT.mk do
    match ← ExceptT.run s with
    | .ok a => return .ok a
    | .error e => return .error (cause e)

end Session

end EndpointStubs
