/-!
# Blank characters

White space in the sense of the property `White_Space`, and trimming by it.

    isBlank c → c ∉ trimStart's head, and trim keeps everything between the outermost non-blanks
-/

namespace EndpointStubs.Text

/-- White space in any script. -/
def isBlank (c : Char) : Bool :=
  let n := c.toNat
  (0x09 ≤ n && n ≤ 0x0d) || n = 0x20 || n = 0x85 || n = 0xa0 || n = 0x1680 ||
    (0x2000 ≤ n && n ≤ 0x200a) || n = 0x2028 || n = 0x2029 || n = 0x202f || n = 0x205f || n = 0x3000

def trimStart (cs : List Char) : List Char := cs.dropWhile isBlank

def trimEnd (cs : List Char) : List Char := (cs.reverse.dropWhile isBlank).reverse

def trim (cs : List Char) : List Char := trimEnd (trimStart cs)

/-- A text without the blanks on either side. -/
def trimmed (s : String) : String := String.ofList (trim s.toList)

end EndpointStubs.Text
