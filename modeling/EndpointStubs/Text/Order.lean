/-!
# Lists of texts in order

The first texts that differ decide, by their first different characters; a list comes before
its continuations.

    inOrder (a :: as) (b :: bs)  ↔  a < b, or a = b and inOrder as bs
-/

namespace EndpointStubs.Text

/-- The first list comes before the second one, or is the same. -/
def inOrder : List String → List String → Bool
  | [], _ => true
  | _ :: _, [] => false
  | a :: as, b :: bs => if a = b then inOrder as bs else decide (a < b)

end EndpointStubs.Text
