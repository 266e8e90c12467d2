import EndpointStubs.FileTree.Basic

/-!
# The difference of two trees

What has to be removed from one tree and what has to be made in it so that it becomes
another one.

    (l, e) ∈ t.added u  ↔  (l, e) ∈ u.entries ∧ t.get? l ≠ some e
-/

namespace EndpointStubs.FileTree

/-- The entries of `u` that `t` lacks, in the order in which they were made. -/
def added (t u : FileTree) : List (Location × Entry) :=
  u.entries.filter fun e => t.get? e.1 ≠ some e.2

/-- The entries of `t` that are gone in `u`, with those that were replaced; what lies in a
directory comes before it. -/
def removed (t u : FileTree) : List (Location × Entry) :=
  (t.entries.filter fun e => u.get? e.1 ≠ some e.2).mergeSort
    fun a b => b.1.length ≤ a.1.length

end EndpointStubs.FileTree
