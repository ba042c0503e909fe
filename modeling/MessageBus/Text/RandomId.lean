/-!
# Random identifiers

A random identifier is written as thirty-two hexadecimal digits of either case in five groups, and
the third group begins with the digit four, which says that the identifier is random.
-/

set_option autoImplicit false

namespace MessageBus

/-- Whether a character is a hexadecimal digit of either case. -/
def isHexDigit (c : Char) : Bool := c.isDigit || ('a' ≤ c.toLower && c.toLower ≤ 'f')

/-- The groups of a text, parted by hyphens. -/
def hyphenGroups (s : String) : List (List Char) := s.toList.splitOn '-'

/-- Whether a text is a random identifier. -/
def isRandomId (s : String) : Bool :=
  let groups := hyphenGroups s
  groups.map List.length == [8, 4, 4, 4, 12] && groups.all (·.all isHexDigit) &&
    (groups[2]?.bind List.head?) == some '4'

end MessageBus
