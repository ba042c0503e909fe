import MessageBus.Duration
import MessageBus.Json
import MessageBus.Text.Utf8
import MessageBus.Tracing.SpanContext

/-!
# Looking into JSON values

The parts of a description in JSON: fields that may be missing, numbers, bytes and durations. A
field that is `null` counts as missing. A number may also be given as the text of its digits. Bytes
are given as text, as hexadecimal digits (`hex`), as a unit repeated so many times (`repeat`), or as
parts in a row (`concat`).
-/

set_option autoImplicit false

namespace MessageBus

namespace Json

/-- The fields of an object. -/
def fields : Json → List (String × Json)
  | .object fields => fields
  | _ => []

/-- The items of an array. -/
def items : Json → List Json
  | .array items => items
  | _ => []

/-- The item at a place. -/
def item (j : Json) (i : Nat) : Json := (j.items[i]?).getD .null

/-- A field that is not `null`. -/
def field? (j : Json) (key : String) : Option Json :=
  match j.fields.lookup key with
  | some .null => none
  | v => v

/-- Whether there is a field, `null` or not. -/
def hasField (j : Json) (key : String) : Bool := (j.fields.lookup key).isSome

/-- A field, or an object without fields in its place. -/
def fieldOrEmpty (j : Json) (key : String) : Json := (j.field? key).getD (.object [])

/-- The items of an array in a field. -/
def listAt (j : Json) (key : String) : List Json := ((j.field? key).map items).getD []

/-- An integer, as a number or as a text. -/
def int? : Json → Option Int
  | .number n => n.integer?.orElse fun _ => if n.whole = 0 then some 0 else none
  | .string s => s.toInt?
  | _ => none

/-- A natural number; what is negative counts as zero. -/
def nat? (j : Json) : Option Nat := j.int?.map Int.toNat

/-- The integer a value is, or zero. -/
def toInt (j : Json) : Int := j.int?.getD 0

/-- The natural number a value is, or zero. -/
def toNat (j : Json) : Nat := j.toInt.toNat

/-- The natural number in a field. -/
def natAt? (j : Json) (key : String) : Option Nat := (j.field? key).bind nat?

/-- Whether a value is `true`. -/
def isTrue : Json → Bool
  | .bool b => b
  | _ => false

/-- The truth value in a field. -/
def flagAt (j : Json) (key : String) (default : Bool) : Bool :=
  match j.field? key with
  | some (.bool b) => b
  | _ => default

/-! ## Bytes and text -/

/-- The bytes that some hexadecimal digits spell. -/
def unhex : List Char → Bytes
  | a :: b :: rest => ((hexValue? a).getD 0 * 16 + (hexValue? b).getD 0).toUInt8 :: unhex rest
  | _ => []

mutual

/-- How deeply a value is nested. -/
def depth : Json → Nat
  | .array items => depthOfItems items + 1
  | .object fields => depthOfFields fields + 1
  | _ => 0

/-- How deeply some values are nested. -/
def depthOfItems : List Json → Nat
  | [] => 0
  | j :: rest => max (depth j) (depthOfItems rest)

/-- How deeply the values of some fields are nested. -/
def depthOfFields : List (String × Json) → Nat
  | [] => 0
  | (_, j) :: rest => max (depth j) (depthOfFields rest)

end

/-- The bytes that a value of limited depth describes. -/
def bytesWithin : Nat → Json → Bytes
  | _, .string s => Utf8.encode s
  | 0, _ => []
  | n + 1, j =>
    match j.field? "hex", j.field? "repeat" with
    | some (.string s), _ => unhex s.toList
    | _, some pair => (List.replicate (pair.item 1).toNat (bytesWithin n (pair.item 0))).flatten
    | _, none => ((j.listAt "concat").map (bytesWithin n)).flatten

/-- The bytes that a value describes. -/
def bytes (j : Json) : Bytes := j.bytesWithin j.depth

/-- The text that a value describes. -/
def text (j : Json) : String := Utf8.decodeLossy j.bytes

/-- The text in a field. -/
def textAt? (j : Json) (key : String) : Option String := (j.field? key).map text

/-- The text in a field, empty if there is none. -/
def textAt (j : Json) (key : String) : String := (j.textAt? key).getD ""

/-- The texts of an array in a field. -/
def textsAt (j : Json) (key : String) : List String := (j.listAt key).map text

/-- The hexadecimal form of some bytes. -/
def hexOf (bs : Bytes) : String := String.join (bs.map fun b => hexPadded 2 b.toNat)

/-- The form of some bytes: their text, if they spell one. -/
def ofBytes (bs : Bytes) : Json :=
  match Utf8.decode? bs with
  | some s => .string s
  | none => .object [("hex", .string (hexOf bs))]

/-- A number as the text of its digits. -/
def digits (n : Int) : Json := .string (toString n)

end Json

namespace Duration

/-- The duration that a value describes: milliseconds, or seconds and nanoseconds. -/
def ofJson (j : Json) : Duration :=
  match j with
  | .object _ => .ofParts ((j.natAt? "secs").getD 0) ((j.natAt? "nanos").getD 0)
  | _ => .ofMillis j.toNat

/-- The form of a duration: seconds and nanoseconds. -/
def toJson (d : Duration) : Json := .object [("secs", .digits d.secs), ("nanos", .ofInt d.nanos)]

end Duration

end MessageBus
