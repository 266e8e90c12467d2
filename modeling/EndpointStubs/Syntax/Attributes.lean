import EndpointStubs.Syntax.Shape
import EndpointStubs.Text.Quoted

/-!
# Attributes
-/

namespace EndpointStubs.Syntax

open Parse

/-- A path of words alone; returns its segments. -/
def plainPath : Parse (List String) := do
  let _ ← punct? "::"
  let starts (ts : List TokenTree) : Bool :=
    Ahead.isIdent ts || Ahead.isWordOf ["super", "self", "Self", "crate"] ts
  let rec segments : Nat → Parse (List String)
    | 0 => failure
    | n + 1 => do
      require (← ahead starts)
      let w ← anyWord
      if ← punct? "::" then return w.text :: (← segments n)
      return [w.text]
  segments ((← rest).length + 1)

/-- The literal in front; returns its text if it is one of characters. -/
def literal : Parse ExprShape := do
  match ← rest with
  | .literal text :: _ =>
    take 1
    return match literalText? text.toList with
      | some s => .text s
      | none => .other
  | ts =>
    require (Ahead.isLiteral ts)
    take (if Ahead.isAnyWord ts then 1 else 2)
    return .other
where
  /-- The characters that a quoted or raw literal writes. -/
  literalText? : List Char → Option String
    | '"' :: cs => (Text.Quoted.read cs).map fun r => String.ofList r.1
    | 'r' :: cs =>
      let (hashes, body) := cs.span (· = '#')
      let ends (cs : List Char) : Bool := ('"' :: hashes).isPrefixOf cs
      let rec go : List Char → List Char
        | [] => []
        | c :: cs => if ends (c :: cs) then [] else c :: go cs
      some (String.ofList (go (body.drop 1)))
    | _ => none

/-- The arguments of an attribute, inside its brackets. -/
def attributeArgs (g : Grammar) : Parse AttributeArgs := do
  if ← ahead Ahead.isAnyGroup then
    return .tokens (← anyGroup).2
  else if ← punct? "=" then
    let lone ← peek do
      let _ ← literal
      require (← atEnd)
    if lone.isSome then return .value (← literal)
    require !(← ahead fun ts => Ahead.isPunct "#" ts && Ahead.isGroup .bracket (ts.drop 1))
    return .value (← g.expr true)
  else return .none

/-- What stands inside the brackets of an attribute. -/
def attributeBody (g : Grammar) : Parse Attribute := do
  let segments ← if ← word? "unsafe" then pure ["unsafe"] else plainPath
  return ⟨segments.getLast?.getD "", ← attributeArgs g⟩

/-- An attribute of what follows it. -/
def outerAttribute (g : Grammar) : Parse Attribute := do
  punct "#"
  group .bracket (attributeBody g)

/-- An attribute of what it stands in. -/
def innerAttribute (g : Grammar) : Parse Attribute := do
  punct "#"
  punct "!"
  group .bracket (attributeBody g)

/-- Attributes as long as the question is answered. -/
def attributesWhile (more : List TokenTree → Bool) (one : Parse Attribute) :
    Nat → Parse (List Attribute)
  | 0 => failure
  | n + 1 => do
    if ← ahead more then
      let a ← one
      return a :: (← attributesWhile more one n)
    return []

/-- The attributes in front of something. -/
def outerAttributes (g : Grammar) : Parse (List Attribute) := do
  attributesWhile (Ahead.isPunct "#") (outerAttribute g) ((← rest).length + 1)

/-- The attributes at the start of a body. -/
def innerAttributes (g : Grammar) : Parse (List Attribute) := do
  let more (ts : List TokenTree) : Bool :=
    Ahead.isPunct "#" ts && Ahead.isPunct "!" (Ahead.skip ts)
  attributesWhile more (innerAttribute g) ((← rest).length + 1)

end EndpointStubs.Syntax
