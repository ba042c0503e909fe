import MessageBus.Text.LetterCase

/-!
# Snake case

`toSnakeCase` turns a type name such as `orderCreated` or `HTTPRequestSent` into the form
`order_created`, `http_request_sent` from which exchanges, queues and routing keys are named. A
separator becomes one `_` between two words; an uppercase letter becomes its lower-case form and
opens a word after a lowercase letter or a digit, and where an acronym ends.
-/

set_option autoImplicit false

namespace MessageBus

open LetterCase

namespace SnakeCase

/-- The characters that part words. -/
def isSeparator (c : Char) : Bool := c == '-' || c == '.' || c == ' ' || c == '_'

/-- An uppercase letter opens a word after a lowercase letter or an ASCII digit, and after an
uppercase letter when a lowercase letter follows (the last letter of an acronym starts the next
word). -/
def opensWord (before after : Option Char) : Bool :=
  match before with
  | none => false
  | some p =>
    if isLower p || p.isDigit then true
    else isUpper p && after.any isLower

/-- The rest of the output, from the input character before, the last character written (`none`:
nothing is written yet) and the input that is left. -/
def words (before last : Option Char) : List Char → List Char
  | [] => []
  | c :: rest =>
    if isSeparator c then
      if last.isSome && last != some '_' then '_' :: words (some c) (some '_') rest
      else words (some c) last rest
    else if isUpper c then
      let gap := if opensWord before rest.head? && last != some '_' then ['_'] else []
      gap ++ lower c ++ words (some c) (lower c).getLast? rest
    else c :: words (some c) (some c) rest

end SnakeCase

/-- The snake-case form of a name. -/
def toSnakeCase (name : String) : String := String.ofList (SnakeCase.words none none name.toList)

end MessageBus
