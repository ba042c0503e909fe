import MessageBus.Decimal.Unsigned
import MessageBus.Text.RandomId

/-!
# Hosts

The host of an address is a name or, in brackets, a number. A numeric host has eight groups of
hexadecimal digits. A double colon stands for one group or more that are zero, and a dotted quad may
stand for the last two groups.
-/

set_option autoImplicit false

namespace MessageBus.Uri

/-- A host, as it is written. -/
inductive Host where
  | name (cs : List Char)
  | numeric (groups : List Char)
deriving DecidableEq, Repr

/-- Characters that no name of a host holds. -/
def hostForbids (c : Char) : Bool := "\x00\t\n\r #/:<>?@[\\]^|".toList.contains c

/-- A group of one to four hexadecimal digits. -/
def isGroup (cs : List Char) : Bool := 1 ≤ cs.length && cs.length ≤ 4 && cs.all isHexDigit

/-- A decimal number below 256 without leading zeros. -/
def isOctet (cs : List Char) : Bool :=
  1 ≤ cs.length && cs.length ≤ 3 && cs.all Char.isDigit &&
    (cs.length = 1 || cs.head? ≠ some '0') && Decimal.ofDigits cs < 256

/-- Four octets, parted by points. -/
def isQuad (cs : List Char) : Bool :=
  let octets := cs.splitOn '.'
  octets.length = 4 && octets.all isOctet

/-- How many groups there are in a row, the last two of which may be a quad. -/
def countGroups : List (List Char) → Option Nat
  | [] => some 0
  | [last] => if isGroup last then some 1 else if isQuad last then some 2 else none
  | group :: rest => if isGroup group then (countGroups rest).map (· + 1) else none

/-- The text before the first double colon and the text after it, if there is one. -/
def splitDouble : List Char → Option (List Char × List Char)
  | ':' :: ':' :: rest => some ([], rest)
  | c :: rest => (splitDouble rest).map fun (before, after) => (c :: before, after)
  | [] => none

/-- Whether a text in brackets is a numeric host. -/
def isNumeric (cs : List Char) : Bool :=
  let groups (cs : List Char) : Option Nat :=
    if cs.isEmpty then some 0 else countGroups (cs.splitOn ':')
  match splitDouble cs with
  | none => groups cs = some 8
  | some (before, after) =>
    match groups before, groups after with
    | some m, some n => !before.contains '.' && m + n ≤ 7
    | _, _ => false

/-- The text of a host and what follows it: a colon ends it, but not between brackets. -/
def spanHost (inBrackets : Bool) : List Char → List Char × List Char
  | [] => ([], [])
  | c :: rest =>
    if c = ':' ∧ !inBrackets then ([], c :: rest)
    else
      let inBrackets := c = '[' || (c ≠ ']' && inBrackets)
      let (host, after) := spanHost inBrackets rest
      (c :: host, after)

/-- The host of a text, if it is one. The name of a host may be empty. -/
def Host.ofText? (cs : List Char) : Option Host :=
  if cs.head? = some '[' then
    let groups := (cs.drop 1).dropLast
    if 2 ≤ cs.length ∧ cs.getLast? = some ']' ∧ isNumeric groups then some (.numeric groups)
    else none
  else if cs.any hostForbids then none
  else some (.name cs)

/-- Nothing is lost: a host and what follows it are the text. -/
theorem spanHost_append (inBrackets : Bool) (cs : List Char) :
    (spanHost inBrackets cs).1 ++ (spanHost inBrackets cs).2 = cs := by
  induction cs generalizing inBrackets with
  | nil => rfl
  | cons c rest ih =>
    simp only [spanHost]
    split
    · rfl
    · simp [ih]

end MessageBus.Uri
