import EndpointStubs.Json.Writer
import EndpointStubs.Log.Settings
import EndpointStubs.Text.Quoted

/-!
# Lines of the log

An event on one line, without its time: as text, with the level in five columns, the message
and the named values, or as a JSON object.

    ␣INFO message name=value            {"level":…,"fields":{"message":…,"name":…},"target":…}
-/

namespace EndpointStubs.Log

/-! ## Lines of text -/

def hexTwo (n : Nat) : List Char := [Nat.digitChar (n / 16), Nat.digitChar (n % 16)]

/-- Controls that a terminal may take for commands. -/
def commandControls : List Char := ['\x07', '\x08', '\x0c', '\x1b', '\x7f']

/-- A character of a message; what a terminal may take for a command is spelled out. -/
def escape (c : Char) : List Char :=
  if commandControls.contains c then '\\' :: 'x' :: hexTwo c.toNat
  else if 0x80 ≤ c.toNat && c.toNat ≤ 0x9f then '\\' :: 'u' :: '{' :: (hexTwo c.toNat ++ ['}'])
  else [c]

def valueText : Event.Value → String
  | .shown text => text
  | .quoted text => Text.Quoted.quote text
  | .number n => toString n

def textLine (e : Event) : String :=
  let level := e.level.name.toList
  let fields := e.fields.flatMap fun f => (" " ++ f.1 ++ "=" ++ valueText f.2).toList
  String.ofList (List.replicate (5 - level.length) ' ' ++ level ++
    ' ' :: (e.message.toList.flatMap escape ++ fields))

/-! ## Lines of JSON -/

def valueJson : Event.Value → Json
  | .shown text | .quoted text => .ofString text
  | .number n => .ofNat n

def eventJson (e : Event) : Json :=
  Json.ofFields
    [("level", .ofString e.level.name),
     ("fields", Json.ofFields
       (("message", .ofString e.message) :: e.fields.map fun f => (f.1, valueJson f.2))),
     ("target", .ofString e.target)]

/-! ## The log of a run -/

def line (f : Format) (e : Event) : String :=
  match f with
  | .json => (eventJson e).compact
  | .pretty => textLine e

/-- The lines of the events that the environment asks for. -/
def lines (env : Environment) (es : List Event) : List String :=
  let s := Settings.ofEnvironment env
  (es.filter (s.filter env).passes).map (line s.format)

end EndpointStubs.Log
