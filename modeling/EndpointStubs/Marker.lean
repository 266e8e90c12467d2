/-!
# Markers

The closed vocabulary of endpoint markers. A marker carries two lists of entries, the
named `path` entries and the positional (or `value`) ones; its first path is the first
named entry, or else the first positional one.
-/

namespace EndpointStubs

/-- The request methods that a route can answer. -/
inductive Verb where
  | get
  | post
  deriving DecidableEq, Repr

/-- The name of the request method. -/
def Verb.name : Verb → String
  | get => "GET"
  | post => "POST"

/-- What a declaration can be marked as. -/
inductive MarkerKind where
  | controller
  | restController
  | getMapping
  | postMapping
  | responseBody
  | requestBody
  | requestParam
  deriving DecidableEq, Repr

namespace MarkerKind

/-- Every kind, in the order in which sets of kinds are listed. -/
def all : List MarkerKind :=
  [controller, restController, getMapping, postMapping, responseBody, requestBody, requestParam]

/-- The name of the kind in sources and manifests. -/
def name : MarkerKind → String
  | controller => "controller"
  | restController => "rest_controller"
  | getMapping => "get_mapping"
  | postMapping => "post_mapping"
  | responseBody => "response_body"
  | requestBody => "request_body"
  | requestParam => "request_param"

def ofName? (s : String) : Option MarkerKind :=
  all.find? fun k => k.name = s

theorem ofName?_name (k : MarkerKind) : ofName? k.name = some k := by
  cases k <;> decide

def isController : MarkerKind → Bool
  | controller | restController => true
  | _ => false

/-- The verb of a route, nothing for the other kinds. -/
def verb? : MarkerKind → Option Verb
  | getMapping => some .get
  | postMapping => some .post
  | _ => none

/-- Position among all kinds. -/
def rank : MarkerKind → Nat
  | controller => 0
  | restController => 1
  | getMapping => 2
  | postMapping => 3
  | responseBody => 4
  | requestBody => 5
  | requestParam => 6

end MarkerKind

/-- One marker of a declaration. -/
structure Marker where
  kind : MarkerKind
  /-- Named `path` entries. -/
  path : List String := []
  /-- Positional and `value` entries. -/
  value : List String := []
  deriving DecidableEq, Repr

/-- The entry that a route or controller uses: a named path wins over a positional one. -/
def Marker.firstPath? (m : Marker) : Option String :=
  m.path.head? <|> m.value.head?

end EndpointStubs
