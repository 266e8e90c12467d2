import EndpointStubs.FileTree.Fault
import EndpointStubs.Path
import EndpointStubs.Text.Quoted

/-!
# Why an artifact is not written
-/

namespace EndpointStubs

def Path.quoted (p : Path) : String := Text.Quoted.quote p.text

/-- Why an artifact is not written. -/
inductive EmitError where
  /-- The name is no sequence of segments. -/
  | invalidName (name : String)
  /-- The path has no counterpart, because it does not lie under the root. -/
  | unmapped (path root : Path)
  /-- A directory cannot be made. -/
  | directory (path : Path) (fault : Fault)
  /-- Something is there already. -/
  | collision (path : Path)
  /-- The file cannot be made. -/
  | file (path : Path) (fault : Fault)
  deriving DecidableEq, Repr

namespace EmitError

def path? : EmitError → Option Path
  | invalidName _ => none
  | unmapped p _ | directory p _ | collision p | file p _ => some p

def fault? : EmitError → Option Fault
  | directory _ f | file _ f => some f
  | _ => none

def message : EmitError → String
  | invalidName name => "Invalid artifact name '" ++ name ++ "': expected dot-delimited identifiers"
  | unmapped p root => "Cannot mirror " ++ p.text ++ ": path is not under " ++ root.text
  | directory p f => "Failed to create directory " ++ p.text ++ ": " ++ f.message
  | collision p => "Refusing to overwrite " ++ p.text ++ ": it was already generated. " ++
      "Clean the output directories before generating again."
  | file p f => "Failed to create " ++ p.text ++ ": " ++ f.message

/-- The error in words, and then the fault behind it. -/
def fullMessage (e : EmitError) : String :=
  match e.fault? with
  | some f => e.message ++ ": " ++ f.message
  | none => e.message

/-- The error with its parts, for logs. -/
def details : EmitError → String
  | invalidName name => "InvalidName \x7b name: " ++ Text.Quoted.quote name ++ " \x7d"
  | unmapped p root => "Unmapped \x7b path: " ++ p.quoted ++ ", root: " ++ root.quoted ++ " \x7d"
  | directory p f => "CreateDir \x7b path: " ++ p.quoted ++ ", source: " ++ f.details ++ " \x7d"
  | collision p => "Collision \x7b path: " ++ p.quoted ++ " \x7d"
  | file p f => "Create \x7b path: " ++ p.quoted ++ ", source: " ++ f.details ++ " \x7d"

end EmitError

end EndpointStubs
