/-!
# Binary floating-point numbers

A floating-point number is a word of bits: a sign, an exponent and a fraction. `Layout` says how
many bits the last two have, `Reading.ofBits` what a word stands for, and a finite number other than
zero is an `m · 2^q`.
-/

set_option autoImplicit false

namespace MessageBus.Decimal

/-- How many bits of a word are its exponent and its fraction. The sign stands before them. -/
structure Layout where
  exponentBits : Nat
  fractionBits : Nat

/-- Words of 32 bits. -/
def Layout.single : Layout := ⟨8, 23⟩

/-- Words of 64 bits. -/
def Layout.double : Layout := ⟨11, 52⟩

/-- The number `m · 2^q`. -/
structure Binary where
  m : Nat
  q : Int
  /-- Whether the next smaller number is half as far away as the next greater one. -/
  narrowBelow : Bool := false

/-- What a word stands for. -/
inductive Reading where
  | notANumber
  | infinity (negative : Bool)
  | zero (negative : Bool)
  | finite (negative : Bool) (value : Binary)

/-- The magnitude of a number with an exponent and a fraction: without an exponent the fraction
stands alone, and otherwise a one stands before it. -/
def Binary.ofFields (l : Layout) (exponent fraction : Nat) : Binary :=
  let lowest : Int := 2 - (1 <<< (l.exponentBits - 1) : Nat) - l.fractionBits
  if exponent = 0 then { m := fraction, q := lowest }
  else
    { m := 1 <<< l.fractionBits + fraction
      q := lowest + exponent - 1
      narrowBelow := fraction = 0 }

/-- What the word stands for that a number spells in binary. -/
def Reading.ofBits (l : Layout) (bits : Nat) : Reading :=
  let fraction := bits % 1 <<< l.fractionBits
  let exponent := bits >>> l.fractionBits % 1 <<< l.exponentBits
  let negative := bits >>> l.fractionBits >>> l.exponentBits % 2 = 1
  if exponent + 1 = 1 <<< l.exponentBits then
    if fraction = 0 then .infinity negative else .notANumber
  else if exponent = 0 ∧ fraction = 0 then .zero negative
  else .finite negative (.ofFields l exponent fraction)

end MessageBus.Decimal
