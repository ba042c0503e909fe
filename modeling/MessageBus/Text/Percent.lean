import MessageBus.Text.Utf8

/-!
# Percent encoding

In an address a byte may stand as a percent sign and two hexadecimal digits. A percent sign that no
two digits follow stands for itself.
-/

set_option autoImplicit false

namespace MessageBus.Percent

/-- The value of a byte that is a hexadecimal digit of either case. -/
def digit? (b : UInt8) : Option UInt8 :=
  if 0x30 ≤ b && b ≤ 0x39 then some (b - 0x30)
  else if 0x41 ≤ b && b ≤ 0x46 then some (b - 0x41 + 10)
  else if 0x61 ≤ b && b ≤ 0x66 then some (b - 0x61 + 10)
  else none

/-- The bytes that some encoded bytes stand for. -/
def decodeBytes : Bytes → Bytes
  | [] => []
  | [a] => [a]
  | [a, b] => [a, b]
  | a :: b :: c :: rest =>
    if a = 0x25 then
      match digit? b, digit? c with
      | some x, some y => (16 * x + y) :: decodeBytes rest
      | _, _ => a :: decodeBytes (b :: c :: rest)
    else a :: decodeBytes (b :: c :: rest)

/-- The text that an encoded text stands for, if its bytes spell one. -/
def decode? (s : String) : Option String := Utf8.decode? (decodeBytes (Utf8.encode s))

/-- The text that an encoded text of a query stands for: a plus sign is a space, and what spells no
text is replaced. -/
def decodeForm (cs : List Char) : String :=
  let spaced := cs.map fun c => if c = '+' then ' ' else c
  Utf8.decodeLossy (decodeBytes (Utf8.encode (String.ofList spaced)))

end MessageBus.Percent
