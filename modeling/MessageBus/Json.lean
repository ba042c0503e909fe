/-!
# JSON values

The tree of a JSON text. Numbers keep what was written, because a reader that wants an integer takes
neither a fraction nor an exponent. A string, or an object one of whose keys, is well formed but
spells no text is `unreadable`: it may stand where a reader looks at nothing, and nowhere else.
-/

set_option autoImplicit false

namespace MessageBus

/-- A number as it is written. -/
structure Numeral where
  negative : Bool := false
  /-- The digits before the point, as a number. -/
  whole : Nat
  /-- How many digits stand after the point, and the number they spell. -/
  fraction : Option (Nat × Nat) := none
  exponent : Option Int := none
deriving DecidableEq, Inhabited, Repr

namespace Numeral

/-- The numeral of an integer. -/
def ofInt : Int → Numeral
  | .ofNat n => { whole := n }
  | .negSucc n => { negative := true, whole := n + 1 }

/-- The integer a numeral spells: it has no fraction and no exponent, and is not a negative zero. -/
def integer? (n : Numeral) : Option Int :=
  if n.fraction.isSome || n.exponent.isSome then none
  else if !n.negative then some n.whole
  else if n.whole = 0 then none
  else some (-n.whole)

@[simp] theorem integer?_ofInt (n : Int) : (ofInt n).integer? = some n := by
  cases n with
  | ofNat n => simp [ofInt, integer?]
  | negSucc n =>
    simp [ofInt, integer?]
    omega

end Numeral

/-- A JSON value. -/
inductive Json where
  | null
  | bool (b : Bool)
  | number (n : Numeral)
  | string (s : String)
  | array (items : List Json)
  | object (fields : List (String × Json))
  | unreadable
deriving Inhabited

/-- The JSON number of an integer. -/
def Json.ofInt (n : Int) : Json := .number (.ofInt n)

end MessageBus
