/-!
# Faults

Why a tree of files refuses an access.
-/

namespace EndpointStubs

/-- Why an access is refused. -/
inductive Fault where
  | notFound
  | alreadyExists
  | notADirectory
  | isADirectory
  | nameTooLong
  /-- A path cannot hold the character NUL. -/
  | nulInName
  /-- The bytes of a file are no UTF-8 text. -/
  | notText
  deriving DecidableEq, Repr

namespace Fault

/-- The system's name, wording and number of a fault that it knows. -/
def system? : Fault → Option (String × String × Nat)
  | notFound => some ("NotFound", "No such file or directory", 2)
  | alreadyExists => some ("AlreadyExists", "File exists", 17)
  | notADirectory => some ("NotADirectory", "Not a directory", 20)
  | isADirectory => some ("IsADirectory", "Is a directory", 21)
  | nameTooLong => some ("InvalidFilename", "File name too long", 36)
  | nulInName | notText => none

/-- The name and wording of a fault that the system never sees. -/
def own : Fault → String × String
  | notText => ("InvalidData", "stream did not contain valid UTF-8")
  | _ => ("InvalidInput", "file name contained an unexpected NUL byte")

def message (f : Fault) : String :=
  match f.system? with
  | some (_, words, number) => words ++ " (os error " ++ toString number ++ ")"
  | none => f.own.2

/-- The fault with its name and number, for logs. -/
def details (f : Fault) : String :=
  match f.system? with
  | some (name, words, number) =>
    "Os \x7b code: " ++ toString number ++ ", kind: " ++ name ++ ", message: \"" ++ words ++ "\" \x7d"
  | none => "Error \x7b kind: " ++ f.own.1 ++ ", message: \"" ++ f.own.2 ++ "\" \x7d"

end Fault

end EndpointStubs
