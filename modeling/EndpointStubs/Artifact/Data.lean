import EndpointStubs.EndpointModel
import EndpointStubs.Text.Quoted

/-!
# The data of the two artifacts

Every round yields the base that all stubs of its package share, and one stub. Each is
rendered from named texts that the model determines.
-/

namespace EndpointStubs

/-- The two artifacts of a round. -/
inductive ArtifactKind where
  | stubBase
  | stub
  deriving DecidableEq, Repr

namespace ArtifactKind

/-- The order in which artifacts are written. -/
def all : List ArtifactKind := [stubBase, stub]

def name : ArtifactKind → String
  | stubBase => "stub-base"
  | stub => "stub"

/-- The file of a template that replaces the built-in one. -/
def overrideFile : ArtifactKind → String
  | stubBase => "stub_base.rs.j2"
  | stub => "stub.rs.j2"

/-- The qualified name of the artifact of a model. -/
def nameIn (m : EndpointModel) : ArtifactKind → String
  | stubBase => m.stubBaseFullName
  | stub => m.stubName

end ArtifactKind

/-- The texts that make up a stub base. -/
structure BaseData where
  packageName : String
  deriving DecidableEq, Repr

/-- The texts that make up a stub. -/
structure StubData where
  packageName : String
  stubBaseFullName : String
  stubName : String
  stubClassName : String
  methodName : String
  responseType : String
  rootResource : String
  subResource : String
  /-- The root resource as a quoted text. -/
  rootResourceLiteral : String
  /-- The sub-resource as a quoted text. -/
  subResourceLiteral : String
  deriving DecidableEq, Repr

def BaseData.ofModel (m : EndpointModel) : BaseData := ⟨m.packageName⟩

def StubData.ofModel (m : EndpointModel) : StubData where
  packageName := m.packageName
  stubBaseFullName := m.stubBaseFullName
  stubName := m.stubName
  stubClassName := m.stubClassName
  methodName := m.methodName
  responseType := m.responseType
  rootResource := m.rootResource
  subResource := m.subResource
  rootResourceLiteral := Text.Quoted.quote m.rootResource
  subResourceLiteral := Text.Quoted.quote m.subResource

def BaseData.fields (d : BaseData) : List (String × String) := [("package_name", d.packageName)]

def StubData.fields (d : StubData) : List (String × String) :=
  [("package_name", d.packageName),
   ("stub_base_fully_qualified_name", d.stubBaseFullName),
   ("stub_fully_qualified_name", d.stubName),
   ("stub_class_name", d.stubClassName),
   ("method_name", d.methodName),
   ("response_type", d.responseType),
   ("root_resource", d.rootResource),
   ("sub_resource", d.subResource),
   ("root_resource_literal", d.rootResourceLiteral),
   ("sub_resource_literal", d.subResourceLiteral)]

/-- The texts of a model's artifact by name. -/
def ArtifactKind.fields (m : EndpointModel) : ArtifactKind → List (String × String)
  | stubBase => (BaseData.ofModel m).fields
  | stub => (StubData.ofModel m).fields

end EndpointStubs
