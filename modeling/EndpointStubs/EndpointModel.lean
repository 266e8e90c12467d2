import EndpointStubs.QualifiedName
import EndpointStubs.ResponseType
import EndpointStubs.Text.Blank
import EndpointStubs.Text.Case

/-!
# Endpoint models

What one round says about its endpoint: the controller's package and name, the handler's
method and response type, and the two resources. A later fact replaces an earlier one;
resources are only replaced by a marker that has a path. The names of the two artifacts
are derived, so they always agree on the package.
-/

namespace EndpointStubs

/-- What to do with a model that lacks a name. -/
inductive Policy where
  /-- Leave the missing parts blank. -/
  | lenient
  /-- Refuse the round. -/
  | strict
  deriving DecidableEq, Repr

namespace Policy

def name : Policy → String
  | lenient => "lenient"
  | strict => "strict"

/-- The policy of exactly that name. -/
def ofName? (s : String) : Option Policy :=
  [lenient, strict].find? fun p => p.name = s

/-- Reads a policy, whatever the blanks around it and the case of its ASCII letters. -/
def parse? (s : String) : Option Policy :=
  ofName? (String.ofList (Text.foldAscii (Text.trim s.toList)))

end Policy

/-- The naming and routing facts of a round. -/
structure EndpointModel where
  package? : Option String := none
  controller? : Option String := none
  method? : Option String := none
  response? : Option String := none
  rootResource? : Option String := none
  subResource? : Option String := none
  deriving DecidableEq, Repr

namespace EndpointModel

/-- The suffix of a stub's class name. -/
def stubSuffix : String := "Stub"

/-- The simple name of the base that all stubs of a package share. -/
def stubBaseName : String := "StubBase"

/-! ## Facts -/

/-- With a controller's facts; the root resource stays if none is given. -/
def withController (m : EndpointModel) (name : String) (root : Option String) : EndpointModel :=
  { m with
    package? := some (QualifiedName.split name).1
    controller? := some (QualifiedName.split name).2
    rootResource? := root <|> m.rootResource? }

/-- With a handler's facts; the sub-resource stays if none is given. -/
def withRoute (m : EndpointModel) (simpleName : String) (sub : Option String)
    (declaredType : String) : EndpointModel :=
  { m with
    method? := some (Text.capitalize simpleName)
    response? := some (ResponseType.ofDeclared declaredType)
    subResource? := sub <|> m.subResource? }

/-! ## Derived names -/

def packageName (m : EndpointModel) : String := m.package?.getD ""

def stubClassName (m : EndpointModel) : String := m.controller?.getD "" ++ stubSuffix

def stubName (m : EndpointModel) : String :=
  QualifiedName.qualify m.packageName m.stubClassName

/-- The qualified name of the package's base. -/
def stubBaseFullName (m : EndpointModel) : String :=
  QualifiedName.qualify m.packageName stubBaseName

def methodName (m : EndpointModel) : String := m.method?.getD ""

def responseType (m : EndpointModel) : String := m.response?.getD ""

def rootResource (m : EndpointModel) : String := m.rootResource?.getD ""

def subResource (m : EndpointModel) : String := m.subResource?.getD ""

/-! ## Completeness -/

/-- What a complete stub needs and no marker has supplied. -/
def missingFields (m : EndpointModel) : List String :=
  (if m.packageName = "" then ["package_name"] else []) ++
  (if m.controller?.isNone then ["stub_class_name"] else []) ++
  (if m.method?.isNone then ["method_name"] else [])

/-- The model lacks the named fields. -/
structure Incomplete where
  missing : List String
  deriving DecidableEq, Repr

def Incomplete.message (e : Incomplete) : String :=
  "endpoint model is incomplete: missing " ++ Text.joinStrings ", " e.missing ++
    ". Is the route declared without a controller marker in the same round?"

/-- What the policy has to say against the model. -/
def check (m : EndpointModel) : Policy → Except Incomplete Unit
  | .lenient => .ok ()
  | .strict => if m.missingFields = [] then .ok () else .error ⟨m.missingFields⟩

/-! ## Text -/

/-- The derived names and facts, by the names under which they are reported. -/
def facts (m : EndpointModel) : List (String × String) :=
  [("package_name", m.packageName),
   ("stub_base_fully_qualified_name", m.stubBaseFullName),
   ("stub_fully_qualified_name", m.stubName),
   ("stub_class_name", m.stubClassName),
   ("method_name", m.methodName),
   ("response_type", m.responseType),
   ("root_resource", m.rootResource),
   ("sub_resource", m.subResource)]

/-- One line that names every fact. -/
def display (m : EndpointModel) : String :=
  "EndpointModel(" ++ Text.joinStrings ", " (m.facts.map fun f => f.1 ++ "=" ++ f.2) ++ ")"

end EndpointModel

end EndpointStubs
