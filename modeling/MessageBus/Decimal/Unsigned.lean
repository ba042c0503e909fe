/-!
# Unsigned numbers

A number that has an upper bound is written in decimal digits, and a plus sign may stand before
them. Leading zeros do not matter.
-/

set_option autoImplicit false

namespace MessageBus.Decimal

/-- The number that decimal digits spell. -/
def ofDigits (cs : List Char) : Nat := cs.foldl (fun n c => 10 * n + (c.toNat - '0'.toNat)) 0

/-- The digits of a number, before which a plus sign may stand. -/
def digitsOf : List Char → List Char
  | '+' :: rest => rest
  | cs => cs

/-- The number that a text spells, if it is one up to `greatest`. -/
def unsigned? (greatest : Nat) (s : String) : Option Nat :=
  let digits := digitsOf s.toList
  if digits.isEmpty || !digits.all Char.isDigit then none
  else if ofDigits digits ≤ greatest then some (ofDigits digits)
  else none

theorem le_of_unsigned? {greatest n : Nat} {s : String} (h : unsigned? greatest s = some n) :
    n ≤ greatest := by
  rw [unsigned?] at h
  split at h
  · cases h
  · split at h
    · cases h; assumption
    · cases h

end MessageBus.Decimal
