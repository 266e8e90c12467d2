import EndpointStubs.Syntax.Items
import EndpointStubs.Syntax.Lexer
import EndpointStubs.Syntax.Statements

/-!
# Source text

The parsers of the grammar, tied together, and what whole texts hold: the items of a file, a
type, attributes, an expression.

    typeText? t = some t' → typeText? t' = some t'
-/

namespace EndpointStubs.Syntax

open Parse

/-! ## The grammar -/

/-- The grammar for source text that nests at most `n` deep. -/
def Grammar.ofDepth : Nat → Grammar
  | 0 =>
    { type := fun _ => failure
      expr := fun _ => failure
      early := failure
      unary := fun _ => failure
      pattern := failure
      statements := failure
      item := failure }
  | n + 1 =>
    { type := fun plus => later fun _ => typeOf (ofDepth n) plus
      expr := fun structs => later fun _ => exprOf (ofDepth n) structs
      early := later fun _ => earlyOf (ofDepth n)
      unary := fun structs => later fun _ => unaryOf (ofDepth n) structs
      pattern := later fun _ => patternOf (ofDepth n)
      statements := later fun _ => statementsOf (ofDepth n)
      item := later fun _ => itemOf (ofDepth n) }

/-- The grammar for the given tokens. -/
def Grammar.for (ts : List TokenTree) : Grammar := .ofDepth (4 * TokenTree.sizeAll ts + 8)

/-- All of a token list, read by a parser of the grammar. -/
def parse? {α : Type} (p : Grammar → Parse α) (ts : List TokenTree) : Option α :=
  runAll (p (.for ts)) ts

/-! ## Files -/

/-- Without a first line that names an interpreter. -/
def dropInterpreter (cs : List Char) : List Char :=
  match cs with
  | '#' :: '!' :: rest =>
    if (Lexer.skipBlanks rest.length rest).head? = some '[' then cs
    else cs.dropWhile (· ≠ '\n')
  | cs => cs

def fileItems? (text : String) : Option (List Item) := do
  let cs := match text.toList with
    | '\ufeff' :: cs => cs
    | cs => cs
  let ts ← Lexer.read (dropInterpreter cs)
  parse? (fun g => do
    let _ ← innerAttributes g
    many g.item) ts

/-! ## Types and attributes -/

/-- The compact text of a type. -/
def typeText? (text : String) : Option String := do
  let ts ← Lexer.read text.toList
  let (_, taken) ← parse? (fun g => capture (g.type true)) ts
  return compactText taken

def attributes? (text : String) : Option (List Attribute) := do
  parse? outerAttributes (← Lexer.read text.toList)

end EndpointStubs.Syntax
