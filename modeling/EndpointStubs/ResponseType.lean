import EndpointStubs.Text.Blank

/-!
# Response types

A handler's declared type may end in invocation marks `()`, as in `OrderView()`. The
response type is what is left without them and without the blanks around and between.

    ofDeclared " Json<Order> () " = "Json<Order>"      ofDeclared "()" = ""
-/

namespace EndpointStubs.ResponseType

/-- Drops blanks and invocation marks from a text that is read from its end. -/
def dropMarks : List Char → List Char
  | [] => []
  | ')' :: '(' :: cs => dropMarks cs
  | c :: cs => if Text.isBlank c then dropMarks cs else c :: cs

/-- The characters of a declared type without blanks in front and marks at the end. -/
def normalize (cs : List Char) : List Char :=
  (dropMarks (Text.trimStart cs).reverse).reverse

def ofDeclared (declared : String) : String := String.ofList (normalize declared.toList)

end EndpointStubs.ResponseType
