import EndpointStubs.FileTree.Listing
import EndpointStubs.Round
import EndpointStubs.Session
import EndpointStubs.Source.Declarations
import EndpointStubs.Source.ModulePath

/-!
# Trees of source files

A source is a file or a directory. A directory is walked: the names in it are read and visited in
order, source files are scanned and directories are walked in turn, except those that are hidden or
hold what was built. A directory is opened by its path, which gets longer on the way down and may
become too long. A file's package is the root package and its place below the source; it has to be
a valid one only if there are markers.

    walk l p = the files of l and the walks of its directories, by name
-/

namespace EndpointStubs

inductive SourcePart where
  | text (file : Path)
  | names (root directory : Path)
  deriving DecidableEq, Repr

/-- Why a source gives no declarations. -/
inductive SourceError where
  | notFound (root : Path)
  | unreadable (part : SourcePart) (fault : Fault)
  | unparsable (file : Path)
  | invalidMarker (file : Path) (cause : MarkerError)
  | invalidSegment (file : Path) (segment : String)
  deriving DecidableEq, Repr

def SourceError.message : SourceError → String
  | notFound p => "Source path not found: " ++ p.text
  | unreadable (.text p) f => "Failed to read source: " ++ p.text ++ ": " ++ f.message
  | unreadable (.names root p) f =>
    "Failed to walk " ++ root.text ++ ": IO error for operation on " ++ p.text ++ ": " ++
      f.message ++ ": " ++ f.message
  | unparsable p => "Failed to parse source: " ++ p.text ++ ": <syn>"
  | invalidMarker p e => "Invalid marker in " ++ p.text ++ ": " ++ e.message
  | invalidSegment p s =>
    "Cannot derive a package for markers in " ++ p.text ++ ": '" ++ s ++
      "' is not a valid package segment"

namespace Source

/-! ## Walking -/

/-- A directory whose content does not count. -/
def isSkipped (name : String) : Bool := name = "target" || name.toList.head? = some '.'

def isSourceName (name : String) : Bool := Path.extension? ⟨name⟩ = some "rs"

/-- What a walk stops at. -/
inductive Visit where
  | file (path : Path)
  /-- A directory that cannot be opened. -/
  | closed (directory : Path) (fault : Fault)
  deriving DecidableEq, Repr

/-- A walk below the directory at a location that a path leads to. -/
def walk (t : FileTree) (l : Location) (p : Path) : List Visit :=
  match FileTree.checkText p with
  | .error f => [.closed p f]
  | .ok () =>
    (t.children l).attach.flatMap fun ⟨(name, e), _⟩ =>
      match e with
      | .file _ => if isSourceName name then [.file (p.join ⟨name⟩)] else []
      | .directory => if isSkipped name then [] else walk t (l ++ [name]) (p.join ⟨name⟩)
termination_by t.countBelow l
decreasing_by exact FileTree.countBelow_lt ‹_›

/-! ## Packages -/

def rootSegments (rootPackage : Option String) : List String :=
  match rootPackage with
  | some p => (QualifiedName.segments p).filter (· ≠ "")
  | none => []

def packageOf (rootPackage : Option String) (base file : Path) : List String :=
  rootSegments rootPackage ++ modulePath base file

/-! ## Scanning -/

def scanText (package : List String) (file : Path) (text : String) :
    Except SourceError (List Declaration) :=
  match Syntax.fileItems? text with
  | none => .error (.unparsable file)
  | some items =>
    match ofItems package items with
    | .error e => .error (.invalidMarker file e)
    | .ok ds =>
      if ds.isEmpty then .ok []
      else
        match package.find? fun s => !QualifiedName.isSegment s with
        | some s => .error (.invalidSegment file s)
        | none => .ok ds

def scanFile (t : FileTree) (rootPackage : Option String) (base file : Path) :
    Except SourceError (List Declaration) :=
  match t.readText file with
  | .error f => .error (.unreadable (.text file) f)
  | .ok text => scanText (packageOf rootPackage base file) file text

def scanVisit (t : FileTree) (rootPackage : Option String) (base : Path) :
    Visit → Except SourceError (List Declaration)
  | .file p => scanFile t rootPackage base p
  | .closed p f => .error (.unreadable (.names base p) f)

/-- The visits of a source with the base of the modules. -/
def visits (t : FileTree) (root : Path) : Except SourceError (Path × List Visit) :=
  match t.lookup root with
  | .ok (_, .file _) => .ok (root.parent?.getD ⟨""⟩, [.file root])
  | .ok (l, .directory) => .ok (root, walk t l root)
  | .error _ => .error (.notFound root)

def declarations (t : FileTree) (root : Path) (rootPackage : Option String) :
    Except SourceError (List Declaration) := do
  let (base, vs) ← visits t root
  return (← vs.mapM (scanVisit t rootPackage base)).flatten

def round (t : FileTree) (root : Path) (rootPackage : Option String) :
    Except SourceError Round :=
  (declarations t root rootPackage).map Round.ofDeclarations

def scanned (root : Path) (count : Nat) : Event :=
  ⟨.debug, "stubgen::source::rust", "scanned source tree",
    [("root", .shown root.text), ("declarations", .number count)]⟩

def scan (root : Path) (rootPackage : Option String) : Session SourceError Round := do
  let ds ← Session.ofExcept id (declarations (← Session.tree) root rootPackage)
  Session.report (scanned root ds.length)
  return Round.ofDeclarations ds

end Source

end EndpointStubs
