import EndpointStubs.Marker
import EndpointStubs.Syntax.SourceText

/-!
# Markers in source text

An attribute is a marker if the last segment of its path names one. Its entries are texts or
lists of texts: after `=`, or among its arguments. Arguments without a name and those named
`value` are values, those named `path` are paths, and the others do not count.

    #[m = s]    #[m(s)]    #[m([s])]    #[m(value = s)]    all have the value entry s
-/

namespace EndpointStubs

open Syntax

/-- Why attributes have no markers. -/
inductive MarkerError where
  /-- The arguments are no source text. -/
  | malformed
  /-- An item of a list is no text. -/
  | itemIsNoText
  /-- An entry is neither a text nor a list. -/
  | entryIsNoText
  deriving DecidableEq, Repr

def MarkerError.message : MarkerError → String
  | malformed => "<syn>"
  | itemIsNoText => "expected a string literal"
  | entryIsNoText => "expected a string literal or an array of string literals"

namespace Marker

/-! ## Entries -/

def itemText : ExprShape → Except MarkerError String
  | .text s => .ok s
  | _ => .error .itemIsNoText

/-- The texts that an expression stands for. -/
def entries : ExprShape → Except MarkerError (List String)
  | .text s => .ok [s]
  | .array items => items.mapM itemText
  | _ => .error .entryIsNoText

/-! ## Arguments -/

inductive Argument where
  | positional (e : ExprShape)
  | named (name : String) (e : ExprShape)

def argument (g : Grammar) : Parse Argument := do
  if ← Parse.ahead fun ts => Ahead.isIdent ts && Ahead.isPunct "=" (Ahead.skip ts) then
    let name ← Parse.ident
    Parse.punct "="
    return .named name.text (← g.expr true)
  return .positional (← g.expr true)

/-- Arguments with commas between, as far as they are source text, and whether all of it is. -/
def argumentsUpTo (g : Grammar) : Nat → List TokenTree → List Argument × Bool
  | 0, _ => ([], false)
  | _ + 1, [] => ([], true)
  | n + 1, ts =>
    match (argument g).run { rest := ts } with
    | none => ([], false)
    | some (a, c) =>
      if c.rest.isEmpty then ([a], !c.leftover)
      else if Ahead.isPunct "," c.rest then
        let (others, complete) := argumentsUpTo g n (c.rest.drop 1)
        (a :: others, complete && !c.leftover)
      else ([a], false)

def arguments (ts : List TokenTree) : List Argument × Bool :=
  argumentsUpTo (.for ts) (ts.length + 1) ts

/-- An argument without a name has to be an entry. -/
def Argument.check : Argument → Except MarkerError Unit
  | .positional e => (entries e).map fun _ => ()
  | .named _ _ => .ok ()

def add (m : Marker) : Argument → Except MarkerError Marker
  | .positional e => (entries e).map fun ss => { m with value := m.value ++ ss }
  | .named name e =>
    if name = "path" then (entries e).map fun ss => { m with path := m.path ++ ss }
    else if name = "value" then (entries e).map fun ss => { m with value := m.value ++ ss }
    else .ok m

/-- The marker of a kind with the arguments in a list of tokens. Arguments without a name are
checked before it is known whether the rest is source text, the others after that. -/
def ofTokens (kind : MarkerKind) (ts : List TokenTree) : Except MarkerError Marker := do
  let (args, complete) := arguments ts
  args.forM Argument.check
  if !complete then throw .malformed
  args.foldlM add { kind }

/-! ## Attributes -/

/-- The marker that an attribute is, if it is one. -/
def ofAttribute (a : Attribute) : Except MarkerError (Option Marker) :=
  match MarkerKind.ofName? a.name with
  | none => .ok none
  | some kind =>
    match a.args with
    | .none => .ok (some { kind })
    | .tokens ts => (ofTokens kind ts).map some
    | .value e => (entries e).map fun ss => some { kind, value := ss }

def ofAttributes (as : List Attribute) : Except MarkerError (List Marker) := do
  return (← as.mapM ofAttribute).filterMap id

end Marker

end EndpointStubs
