import EndpointStubs.Text.Pieces

/-!
# Paths

A path is the text that names a place in a tree of files. Its components are the root, a
leading `.`, the steps `..` and the names in between; repeated and trailing slashes and
any other `.` count for nothing. Two paths are the same place on paper when their
components agree, but each keeps the text it was built from.

    (p.join q).text = p.text ++ "/" ++ q.text            unless a slash is there, or not needed
    p.stripPrefix? q = some r → p.components = q.components ++ r.components
-/

namespace EndpointStubs

/-- The text of a path. -/
structure Path where
  text : String
  deriving DecidableEq, Repr

namespace Path

/-- One step of a path. -/
inductive Component where
  | root
  /-- A `.` in front of a relative path. -/
  | current
  | parent
  | normal (name : String)
  deriving DecidableEq, Repr

/-! ## Head and body

The head of a path is the slash of the root or the leading `.`; the pieces between slashes
of what follows are its body. -/

/-- What a path starts from. -/
inductive Head where
  | root
  | current
  | none
  deriving DecidableEq, Repr

def Head.chars : Head → List Char
  | root => ['/']
  | current => ['.']
  | none => []

def Head.components : Head → List Component
  | root => [.root]
  | current => [.current]
  | none => []

/-- Head and remaining characters. -/
def cutHead : List Char → Head × List Char
  | '/' :: cs => (.root, cs)
  | ['.'] => (.current, [])
  | '.' :: '/' :: cs => (.current, '/' :: cs)
  | cs => (.none, cs)

def head (p : Path) : Head := (cutHead p.text.toList).1

def body (p : Path) : List (List Char) := Text.pieces '/' (cutHead p.text.toList).2

/-- The path of a head and the pieces of a body. -/
def ofBody (h : Head) (b : List (List Char)) : Path :=
  ⟨String.ofList (h.chars ++ Text.join ['/'] b)⟩

/-- Pieces that count for nothing. -/
def isFiller (piece : List Char) : Bool := piece = [] || piece = ['.']

/-- The component of a piece that counts. -/
def pieceComponent (piece : List Char) : Component :=
  if piece = ['.', '.'] then .parent else .normal (String.ofList piece)

/-! ## Components -/

def components (p : Path) : List Component :=
  p.head.components ++ (p.body.filter fun b => !isFiller b).map pieceComponent

def Component.text : Component → String
  | root => "/"
  | current => "."
  | parent => ".."
  | normal name => name

def isAbsolute (p : Path) : Bool := p.head = .root

def same (p q : Path) : Bool := p.components = q.components

/-- The components of `q` come first. -/
def startsWith (p q : Path) : Bool := q.components.isPrefixOf p.components

/-! ## Joining -/

/-- `q` seen from `p`: an absolute path stands for itself, and an empty one leaves a slash. -/
def join (p q : Path) : Path :=
  if q.isAbsolute then q
  else if p.text = "" || p.text.toList.getLast? = some '/' then ⟨p.text ++ q.text⟩
  else ⟨p.text ++ "/" ++ q.text⟩

/-! ## Parents -/

/-- The bodies of all parents, nearest first; both sides are read from their ends. -/
def parentBodies : List (List Char) → List (List (List Char))
  | [] => []
  | b :: bs => if isFiller b then parentBodies bs else bs.dropWhile isFiller :: parentBodies bs

/-- The paths above, nearest first: without the last component, without the last two … -/
def parents (p : Path) : List Path :=
  (parentBodies p.body.reverse).map (fun b => ofBody p.head b.reverse) ++
    (if p.head = .current then [⟨""⟩] else [])

/-- The path without its last component; the root and the empty path have no parent. -/
def parent? (p : Path) : Option Path := p.parents.head?

/-! ## Prefixes -/

/-- Drops pieces from the front until `n` that count are gone. -/
def dropCounting : Nat → List (List Char) → List (List Char)
  | 0, bs => bs
  | _ + 1, [] => []
  | n + 1, b :: bs => if isFiller b then dropCounting (n + 1) bs else dropCounting n bs

/-- Without the pieces at the end that count for nothing. -/
def dropFillerEnd (bs : List (List Char)) : List (List Char) :=
  (bs.reverse.dropWhile isFiller).reverse

/-- What remains of `p` below `q`. -/
def stripPrefix? (p q : Path) : Option Path :=
  if p.startsWith q then
    if q.components = [] then some (ofBody p.head (dropFillerEnd p.body))
    else
      let rest := dropCounting (q.components.length - p.head.components.length) p.body
      some (ofBody .none (dropFillerEnd (rest.dropWhile isFiller)))
  else none

/-! ## Names -/

/-- The last component, if it is a name. -/
def fileName? (p : Path) : Option String :=
  match p.components.getLast? with
  | some (.normal name) => some name
  | _ => none

/-- The file name before its last dot; a leading dot does not count. -/
def fileStem? (p : Path) : Option String :=
  p.fileName?.map fun name =>
    match Text.splitAtLast '.' name.toList with
    | some (stem, _) => if stem = [] then name else String.ofList stem
    | none => name

/-- The file name after its last dot; a leading dot does not count. -/
def extension? (p : Path) : Option String :=
  p.fileName?.bind fun name =>
    match Text.splitAtLast '.' name.toList with
    | some (stem, ext) => if stem = [] then none else some (String.ofList ext)
    | none => none

end Path

end EndpointStubs
