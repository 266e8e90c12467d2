import EndpointStubs.Document
import EndpointStubs.Yaml.Node

/-!
# YAML documents

A value is a node with the anchors of its document. A plain scalar without text is an empty
list or record where one is asked for; a record is never a list. A choice is a text, or a tag
on nothing.
-/

namespace EndpointStubs.Yaml

structure Value where
  node : Node
  anchored : List Anchored

namespace Value

/-- The node, or the one that it stands for. Of anchors with one number the last one counts. -/
def resolved (v : Value) : Node :=
  match v.node with
  | .reference number =>
    ((v.anchored.filter fun a => a.number = number).foldl
      (fun (best : Option Anchored) a => if best.all fun b => b.place < a.place then some a else best)
      none).elim .missing Anchored.node
  | n => n

def sibling (v : Value) (n : Node) : Value := ⟨n, v.anchored⟩

def text? (v : Value) : Option String :=
  match v.resolved with
  | .scalar _ text _ => some text
  | _ => none

/-- Texts that stand for nothing. -/
def isNullText (s : String) : Bool := ["null", "Null", "NULL", "~"].contains s

def nullTag : String := "tag:yaml.org,2002:null"

/-- A plain scalar is nothing without a text, or with one that says so. The tag of nothing does
not allow any other text, and a further tag makes it something. -/
def nothing? (v : Value) : Option Bool :=
  match v.resolved with
  | .scalar none text true => some (text = "" || isNullText text)
  | .scalar (some tag) text true =>
    if tag = nullTag then (if isNullText text then some true else none) else some false
  | _ => some false

def items? (v : Value) : Option (List Value) :=
  match v.resolved with
  | .sequence _ items => some (items.map v.sibling)
  | .scalar _ "" true => some []
  | _ => none

/-- Fields by name; a name has to be a text. -/
def fields? (v : Value) : Option (List (Option String × Value)) :=
  match v.resolved with
  | .mapping _ entries => some (entries.map fun e => ((v.sibling e.1).text?, v.sibling e.2))
  | .scalar _ "" true => some []
  | _ => none

/-- The name in a tag of the document's own. -/
def ownTag? (tag : Option String) : Option String :=
  match tag.map String.toList with
  | some ['!'] => some "!"
  | some ('!' :: name) => some (String.ofList name)
  | _ => none

/-- A text, or a tag on a plain scalar that is nothing. -/
def choice? (v : Value) : Option String :=
  match v.resolved with
  | .scalar tag text plain =>
    match ownTag? tag with
    | some name => if plain && (text = "" || isNullText text) then some name else none
    | none => some text
  | _ => none

end Value

def view : View Value where
  text? := Value.text?
  nothing? := Value.nothing?
  items? := Value.items?
  inOrder? := fun _ => none
  fields? := Value.fields?
  choice? := Value.choice?

def read (s : String) : Option Value := do
  let tokens ← readTokens s
  let (n, b) ← Build.document.run { tokens }
  return ⟨n, b.anchored⟩

end EndpointStubs.Yaml
