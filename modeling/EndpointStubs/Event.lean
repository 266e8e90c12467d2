/-!
# Events

What the program reports about its work while it runs: a level, the part of the program
that speaks, a message and named values.
-/

namespace EndpointStubs

namespace Event

/-- Severity, the most severe first. -/
inductive Level where
  | error
  | warn
  | info
  | debug
  | trace
  deriving DecidableEq, Repr

/-- The more severe, the smaller. -/
def Level.rank : Level → Nat
  | error => 1
  | warn => 2
  | info => 3
  | debug => 4
  | trace => 5

def Level.name : Level → String
  | error => "ERROR"
  | warn => "WARN"
  | info => "INFO"
  | debug => "DEBUG"
  | trace => "TRACE"

/-- A named value: a text shown as it is, a text that one-line formats quote, or a number. -/
inductive Value where
  | shown (text : String)
  | quoted (text : String)
  | number (n : Nat)
  deriving DecidableEq, Repr

end Event

/-- One report. -/
structure Event where
  level : Event.Level
  target : String
  message : String
  fields : List (String × Event.Value) := []
  deriving DecidableEq, Repr

namespace Event

def note (level : Level) (text : String) : Event := ⟨level, "stubgen::diagnostics", text, []⟩

end Event

end EndpointStubs
