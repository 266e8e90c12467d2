import EndpointStubs.Template.Reader.Expression

/-!
# Reading statements

A statement starts with a word that names it. Its bodies end at tags that start with one of its
closing words. A template is what its text reads as, if its blocks have different names.
-/

namespace EndpointStubs.Template

namespace Reader

/-- The readers that statements are made of. -/
structure Parts where
  /-- Expressions. -/
  inner : Inner
  /-- Statements up to a tag that starts with one of the words; the word is taken. -/
  body : List String → Reader (List Stmt × String)

namespace Parts

variable (p : Parts)

def bound : Nat := p.inner.bound

def bodyUntil (word : String) : Reader (List Stmt) := do
  expectClose
  return (← p.body [word]).1

/-! ## Control -/

def forStmt : Reader Stmt := do
  let target ← assignment p.bound p.bound
  expectName "in"
  let iter ← p.inner.plain
  let cond? ← if ← skipName "if" then some <$> p.inner.full else pure none
  let recursive ← skipName "recursive"
  expectClose
  let (body, word) ← p.body ["endfor", "else"]
  let otherwise ← if word = "else" then p.bodyUntil "endfor" else pure []
  return .forEach target iter cond? recursive body otherwise

/-- The rest of a conditional, from its test. -/
def ifStmt : Nat → Reader Stmt
  | 0 => failure
  | n + 1 => do
    let test ← p.inner.full
    expectClose
    let (body, word) ← p.body ["endif", "else", "elif"]
    if word = "elif" then return .ifElse test body [← ifStmt n]
    let otherwise ← if word = "else" then p.bodyUntil "endif" else pure []
    return .ifElse test body otherwise

/-! ## Assignments -/

/-- The targets of a scope or an assignment in parentheses. -/
def inParentheses : Reader Target := do
  let t ← assignment p.bound p.bound
  expectOp ")"
  return t

def withAssignments : Nat → Reader (List (Target × Expr))
  | 0 => failure
  | n + 1 => do
    if ← atClose then return []
    let rec rest : Nat → Reader (List (Target × Expr))
      | 0 => failure
      | k + 1 => do
        let target ← if ← skipOp "(" then inParentheses p else Target.name <$> assignable
        expectOp "="
        let a ← p.inner.full
        if ← atClose then return [(target, a)]
        expectOp ","
        return (target, a) :: (← rest k)
    rest (n + 1)

def withStmt : Reader Stmt := do
  let assigned ← withAssignments p p.bound
  return .within assigned (← p.bodyUntil "endwith")

def filterChain : Nat → Reader (List FilterCall)
  | 0 => failure
  | n + 1 => do
    let f ← p.inner.filterCall
    if ← skipOp "|" then return f :: (← filterChain n)
    return [f]

/-- A name, perhaps with attributes. -/
def assignedName : Nat → Reader Target
  | 0 => failure
  | n + 1 => do
    let name ← assignable
    let rec attributes : Nat → Target → Expr → Reader Target
      | 0, _, _ => failure
      | k + 1, t, a => do
        if ← skipOp "." then
          let attr ← takeName
          attributes k (.attribute a attr) (.attribute a attr)
        else return t
    attributes (n + 1) (.name name) (.var name)

/-- Further names after the first one. -/
def assignedNames : Nat → Reader (List Target)
  | 0 => failure
  | n + 1 => do
    if ← skipOp "," then
      let t ← assignedName p.bound
      return t :: (← assignedNames n)
    return []

def setStmt : Reader Stmt := do
  let (target, single) ←
    if ← skipOp "(" then do pure (← inParentheses p, false)
    else do
      let t ← assignedName p.bound
      match ← assignedNames p p.bound with
      | [] => pure (t, true)
      | ts => pure (.tuple (t :: ts), false)
  if single && ((← atOp "|") || (← atClose)) then
    let fs ← if ← skipOp "|" then filterChain p p.bound else pure []
    return .setBlock target fs (← p.bodyUntil "endset")
  expectOp "="
  return .set target (← p.inner.full)

/-! ## Blocks and filters -/

def filterStmt : Reader Stmt := do
  let fs ← filterChain p p.bound
  return .filterBlock fs (← p.bodyUntil "endfilter")

def escapeStmt : Reader Stmt := do
  let enabled ← p.inner.full
  return .escapeBlock enabled (← p.bodyUntil "endautoescape")

/-- Nothing but blanks. -/
def isEmptyBody (body : List Stmt) : Bool :=
  body.all fun s =>
    match s with
    | .text t => t.toList.all Text.isBlank
    | _ => false

def blockStmt : Reader Stmt := do
  let name ← takeName
  let _ ← skipName "scoped"
  let required ← skipName "required"
  let body ← p.bodyUntil "endblock"
  if required && !isEmptyBody body then failure
  match ← peek with
  | some (.name closing) =>
    advance
    if closing = name then return .block name required body else failure
  | _ => return .block name required body

/-! ## Other templates -/

/-- A word about the context, which is always there. -/
def skipContext : Reader Unit := do
  if (← atName "with") || (← atName "without") then
    advance
    expectName "context"

def includeStmt : Reader Stmt := do
  let source ← p.inner.full
  skipContext
  let ignoring ← skipName "ignore"
  if ignoring then
    expectName "missing"
    skipContext
  return .include source ignoring

/-- What an expression assigns to, if it can. -/
def targetOf? : Expr → Option Target
  | .var name => some (.name name)
  | .attribute a name => some (.attribute a name)
  | .list items => (targetsOf? items).map .tuple
  | _ => none
where
  /-- What expressions assign to, if they can. -/
  targetsOf? : List Expr → Option (List Target)
    | [] => some []
    | a :: as => do return (← targetOf? a) :: (← targetsOf? as)

def importStmt : Reader Stmt := do
  let source ← p.inner.full
  expectName "as"
  match targetOf? (← p.inner.full) with
  | some t =>
    skipContext
    return .importAll source t
  | none => failure

/-- A name with the name that it gets. -/
def importedName : Reader (String × String) := do
  let name ← assignable
  if ← skipName "as" then return (name, ← assignable)
  return (name, name)

/-- The end of imported names, perhaps after a word about the context. -/
def atImportEnd : Reader Bool := do
  if ← atClose then return true
  match (← get).tokens with
  | .name word :: .name "context" :: .closeTag :: _ =>
    if word = "with" || word = "without" then
      advance
      advance
      return true
    return false
  | _ => return false

/-- Imported names with commas between; a comma may stand at the end. -/
def importedNames : Nat → Reader (List (String × String))
  | 0 => failure
  | n + 1 => do
    if ← atImportEnd then return []
    let one ← importedName
    if ← atImportEnd then return [one]
    expectOp ","
    return one :: (← importedNames n)

def fromStmt : Reader Stmt := do
  let source ← p.inner.full
  expectName "import"
  return .importNames source (← importedNames p.bound)

/-! ## Macros -/

def param : Reader Param := do
  let name ← assignable
  if ← skipOp "=" then return ⟨name, some (← p.inner.full)⟩
  return ⟨name, none⟩

/-- Parameters with defaults come last. -/
def defaultsLast : List Param → Bool
  | [] => true
  | q :: qs => if q.default?.isSome then qs.all (·.default?.isSome) else defaultsLast qs

/-- Parameters after an opening parenthesis. -/
def params : Reader (List Param) := do
  let ps ← commaList (param p) ")" p.bound
  if defaultsLast ps then return ps else failure

def macroStmt : Reader Stmt := do
  let name ← takeName
  expectOp "("
  let ps ← params p
  return .define name ps (← p.bodyUntil "endmacro")

def callStmt : Reader Stmt := do
  let ps ← if ← skipOp "(" then params p else pure []
  match ← p.inner.full with
  | .call f args => return .callBlock f args ps (← p.bodyUntil "endcall")
  | _ => failure

def doStmt : Reader Stmt := do
  match ← p.inner.full with
  | .call f args => return .evaluate f args
  | _ => failure

/-! ## Statements by their words -/

/-- The statement of a tag that starts with the word. -/
def stmt (word : String) : Reader Stmt :=
  if word = "for" then forStmt p
  else if word = "if" then ifStmt p p.bound
  else if word = "with" then withStmt p
  else if word = "set" then setStmt p
  else if word = "filter" then filterStmt p
  else if word = "autoescape" then escapeStmt p
  else if word = "block" then blockStmt p
  else if word = "extends" then return .extending (← p.inner.full)
  else if word = "include" then includeStmt p
  else if word = "import" then importStmt p
  else if word = "from" then fromStmt p
  else if word = "macro" then macroStmt p
  else if word = "call" then callStmt p
  else if word = "do" then doStmt p
  else failure

/-- Statements up to a tag that starts with one of the words, or to the end of the template
if there are no such words. -/
def statements (stops : List String) : Nat → Reader (List Stmt × String)
  | 0 => failure
  | n + 1 => do
    match ← peek with
    | none => if stops.isEmpty then return ([], "") else failure
    | some (.text cs) =>
      advance
      let (rest, word) ← statements stops n
      return (.text (String.ofList cs) :: rest, word)
    | some .openValue =>
      advance
      let a ← p.inner.full
      match ← peek with
      | some .closeValue =>
        advance
        let (rest, word) ← statements stops n
        return (.emit a :: rest, word)
      | _ => failure
    | some .openTag =>
      advance
      let word ← takeName
      if stops.contains word then return ([], word)
      let s ← guarded (stmt p word)
      expectClose
      let (rest, word) ← statements stops n
      return (s :: rest, word)
    | some _ => failure

end Parts

/-- The readers of statements that nest at most `depth` deep. -/
def parts (bound : Nat) : Nat → Parts
  | 0 => ⟨inner bound bound, fun _ => failure⟩
  | depth + 1 => {
      inner := inner bound bound
      body := fun stops => (parts bound depth).statements stops bound }

end Reader

def read (s : String) : Option (List Stmt) := do
  let tokens ← Token.scan s.toList
  let bound := tokens.length + 2
  let ((stmts, _), _) ← ((Reader.parts bound bound).statements [] bound).run ⟨tokens, 0⟩
  if wellFormed stmts then some stmts else none

end EndpointStubs.Template
