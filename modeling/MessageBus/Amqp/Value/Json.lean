import MessageBus.Amqp.Value
import MessageBus.Json.Access

/-!
# Header values as JSON

The form of a header value names its kind beside what it holds. Numbers of 64 bits are written as
the text of their digits, and floating-point numbers as the digits of their bits.
-/

set_option autoImplicit false

namespace MessageBus

/-- A form that names a kind. -/
def Json.tagged (kind : String) (v : Json) : Json := .object [("t", .string kind), ("v", v)]

namespace Amqp

/-- The digits of a numeral that fit a word of 64 bits, as one number, and the power of ten it is to
be multiplied with. Digits before the point that do not fit count as zeros, and those after it are
dropped. -/
def significand (n : Numeral) : Nat × Int :=
  let digits (n : Nat) : List Nat := (Nat.toDigits 10 n).map fun c => c.toNat - '0'.toNat
  let fits (m digit : Nat) : Bool := 10 * m + digit < UInt64.size
  let (m, dropped) := (digits n.whole).foldl (fun (m, dropped) digit =>
    if dropped = 0 && fits m digit then (10 * m + digit, 0) else (m, dropped + 1)) (0, 0)
  let (count, value) := n.fraction.getD (0, 0)
  let after := (digits (Nat.pow 10 count + value)).drop 1
  let (m, taken, _) := after.foldl (fun (m, taken, full) digit =>
    if !full && fits m digit then (10 * m + digit, taken + 1, false) else (m, taken, true))
    (m, 0, false)
  (m, n.exponent.getD 0 + dropped - (taken : Nat))

/-- A number times a power of ten. It is divided by at most `10^308` at a time; each division and
each multiplication is rounded. -/
def timesPower : (divisions : Nat) → Float → Int → Float
  | 0, f, _ => f
  | divisions + 1, f, e =>
    if 0 ≤ e then f * Float.ofScientific 1 false e.toNat
    else if -308 ≤ e then f / Float.ofScientific 1 false (-e).toNat
    else timesPower divisions (f / 1e308) (e + 308)

/-- The floating-point number that a numeral is read as: its significand is rounded, and then
scaled. After four divisions by `10^308` nothing is left of it. -/
def floatOf (n : Numeral) : Float :=
  let (m, e) := significand n
  let f := timesPower 4 m.toUInt64.toFloat e
  if n.negative then -f else f

/-- The floating-point number that a value is, or zero. -/
def floatOfJson : Json → Float
  | .number n => floatOf n
  | _ => 0

namespace Value

/-- The header value that a value of limited depth describes. -/
def ofJsonWithin : Nat → Json → Value
  | 0, _ => .void
  | depth + 1, j =>
    let v := (j.field? "v").getD .null
    let n := v.toInt
    match j.textAt "t" with
    | "Boolean" => .bool v.isTrue
    | "ShortShortInt" => .int8 n.toInt8
    | "ShortShortUInt" => .uint8 n.toNat.toUInt8
    | "ShortInt" => .int16 n.toInt16
    | "ShortUInt" => .uint16 n.toNat.toUInt16
    | "LongInt" => .int32 n.toInt32
    | "LongUInt" => .uint32 n.toNat.toUInt32
    | "LongLongInt" => .int64 n.toInt64
    | "Timestamp" => .timestamp n.toNat.toUInt64
    | "Float" => .float (floatOfJson v).toFloat32.toBits
    | "Double" => .double (floatOfJson v).toBits
    | "DecimalValue" =>
      .decimal ((v.natAt? "scale").getD 0).toUInt8 ((v.natAt? "value").getD 0).toUInt32
    | "ShortString" => .shortString v.text
    | "LongString" => .longString v.bytes
    | "ByteArray" => .byteArray v.bytes
    | "FieldArray" => .array (v.items.map (ofJsonWithin depth))
    | "FieldTable" =>
      .table (Dict.ofList (v.fields.map fun e => (e.1, ofJsonWithin depth e.2))).entries
    | _ => .void

/-- The header value that a value describes. -/
def ofJson (j : Json) : Value := ofJsonWithin (j.depth + 1) j

mutual

/-- The form of a header value. -/
def toJson : Value → Json
  | .bool b => .tagged "Boolean" (.bool b)
  | .int8 n => .tagged "ShortShortInt" (.ofInt n.toInt)
  | .uint8 n => .tagged "ShortShortUInt" (.ofInt n.toNat)
  | .int16 n => .tagged "ShortInt" (.ofInt n.toInt)
  | .uint16 n => .tagged "ShortUInt" (.ofInt n.toNat)
  | .int32 n => .tagged "LongInt" (.ofInt n.toInt)
  | .uint32 n => .tagged "LongUInt" (.ofInt n.toNat)
  | .int64 n => .tagged "LongLongInt" (.digits n.toInt)
  | .timestamp n => .tagged "Timestamp" (.digits n.toNat)
  | .float b => .tagged "Float" (.string (hexPadded 8 b.toNat))
  | .double b => .tagged "Double" (.string (hexPadded 16 b.toNat))
  | .decimal s n =>
    .tagged "DecimalValue" (.object [("scale", .ofInt s.toNat), ("value", .ofInt n.toNat)])
  | .shortString s => .tagged "ShortString" (.string s)
  | .longString bs => .tagged "LongString" (.ofBytes bs)
  | .byteArray bs => .tagged "ByteArray" (.object [("hex", .string (Json.hexOf bs))])
  | .array items => .tagged "FieldArray" (.array (itemsToJson items))
  | .table entries => .tagged "FieldTable" (.object (entriesToJson entries))
  | .void => .tagged "Void" .null

/-- The forms of some header values. -/
def itemsToJson : List Value → List Json
  | [] => []
  | v :: rest => toJson v :: itemsToJson rest

/-- The forms of the entries of a table. -/
def entriesToJson : List (String × Value) → List (String × Json)
  | [] => []
  | (k, v) :: rest => (k, toJson v) :: entriesToJson rest

end

end Value

namespace Table

/-- The header table that a value describes. -/
def ofJson (j : Json) : Table := .ofList (j.fields.map fun e => (e.1, Value.ofJson e.2))

/-- The form of a header table. -/
def toJson (t : Table) : Json := .object (Value.entriesToJson t.entries)

end Table

end Amqp

end MessageBus
