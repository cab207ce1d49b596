/-!
# `EntitlementClient.Text.Blank`: white space

`isBlank` is the Unicode property of white space. `trim` removes it on both sides of a text.
-/

set_option autoImplicit false

namespace EntitlementClient.Text

/-- Whether the character is white space. -/
def isBlank (c : Char) : Bool :=
  let n := c.toNat
  (9 ≤ n && n ≤ 13) || n = 0x20 || n = 0x85 || n = 0xa0 || n = 0x1680
    || (0x2000 ≤ n && n ≤ 0x200a) || n = 0x2028 || n = 0x2029 || n = 0x202f || n = 0x205f
    || n = 0x3000

/-- The characters without the white space at the end. -/
def trimRight (cs : List Char) : List Char := (cs.reverse.dropWhile isBlank).reverse

/-- The characters without the white space on both sides. -/
def trim (cs : List Char) : List Char := trimRight (cs.dropWhile isBlank)

end EntitlementClient.Text
