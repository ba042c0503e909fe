/-!
# Blanks

The characters with the white-space property, and trimming them from the ends of a text.
-/

set_option autoImplicit false

namespace MessageBus

/-- The white-space property. -/
def isBlank (c : Char) : Bool :=
  let n := c.toNat
  (0x09 ≤ n && n ≤ 0x0D) || n == 0x20 || n == 0x85 || n == 0xA0 || n == 0x1680 ||
    (0x2000 ≤ n && n ≤ 0x200A) || n == 0x2028 || n == 0x2029 || n == 0x202F || n == 0x205F ||
    n == 0x3000

/-- A text without the blanks at its ends. -/
def trimBlanks (cs : List Char) : List Char :=
  ((cs.dropWhile isBlank).reverse.dropWhile isBlank).reverse

/-- The pieces of a text between separators; an empty piece at the end is dropped. -/
def splitTerminated (sep : Char) (cs : List Char) : List (List Char) :=
  let pieces := cs.splitOn sep
  if pieces.getLast? == some [] then pieces.dropLast else pieces

end MessageBus
