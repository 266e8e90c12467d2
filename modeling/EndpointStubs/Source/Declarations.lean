import EndpointStubs.Declaration
import EndpointStubs.Source.Markers

/-!
# Declarations in source text

A marked type, trait or function is a declaration. Its name is that of its package, the inline
modules around it, the trait or type that holds it, and itself, with dots between. Functions
have a declared type: the text of the type that they return, or `()`.
-/

namespace EndpointStubs.Source

open Syntax

/-- The declared type of a function that names none. -/
def unitType : String := "()"

def declaredType (f : Function) : String :=
  match f.returns? with
  | some ts => compactText ts
  | none => unitType

/-- A declaration, if its attributes hold a marker. -/
def marked (attributes : List Attribute) (name : String) (declaredType : Option String) :
    Except MarkerError (List Declaration) := do
  let markers ← Marker.ofAttributes attributes
  return if markers.isEmpty then [] else [{ name, markers, declaredType }]

def ofFunction (scope : String) (f : Function) : Except MarkerError (List Declaration) :=
  marked f.attributes (QualifiedName.qualify scope f.name.text) (some (declaredType f))

def ofFunctions (scope : String) (fs : List Function) : Except MarkerError (List Declaration) := do
  return (← fs.mapM (ofFunction scope)).flatten

def packageName (package : List String) : String := Text.joinStrings "." package

mutual

def ofItem (package : List String) : Item → Except MarkerError (List Declaration)
  | .type attributes name =>
    marked attributes (QualifiedName.qualify (packageName package) name.text) none
  | .trait attributes name functions => do
    let scope := QualifiedName.qualify (packageName package) name.text
    return (← marked attributes scope none) ++ (← ofFunctions scope functions)
  | .implementation (some owner) functions =>
    ofFunctions (QualifiedName.qualify (packageName package) owner.text) functions
  | .implementation none _ => .ok []
  | .function f => ofFunction (packageName package) f
  | .module name items => ofItems (package ++ [name.text]) items
  | .other | .asWritten => .ok []

def ofItems (package : List String) : List Item → Except MarkerError (List Declaration)
  | [] => .ok []
  | i :: is => do return (← ofItem package i) ++ (← ofItems package is)

end

end EndpointStubs.Source
