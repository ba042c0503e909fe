import MessageBus.Amqp.Value

/-!
# Metadata

The key/value data that travels with a message as headers. A header value has nine kinds; each is
written as the wire value of its width, and unsigned 64-bit numbers as timestamps, the only unsigned
64-bit values of the wire. Reading passes over wire values of other kinds.
-/

set_option autoImplicit false

namespace MessageBus

/-- A value of the metadata. -/
inductive HeaderValue where
  | shortText (s : String)
  | text (s : String)
  | bool (b : Bool)
  | int16 (n : Int16)
  | int32 (n : Int32)
  | int64 (n : Int64)
  | uint16 (n : UInt16)
  | uint32 (n : UInt32)
  | uint64 (n : UInt64)
deriving DecidableEq, Inhabited

namespace HeaderValue

/-- The text of a value that is one. -/
def text? : HeaderValue → Option String
  | shortText s | text s => some s
  | _ => none

/-- The wire value of a header value. -/
def toAmqp : HeaderValue → Amqp.Value
  | shortText s => .shortString s
  | text s => .ofText s
  | bool b => .bool b
  | int16 n => .int16 n
  | int32 n => .int32 n
  | int64 n => .int64 n
  | uint16 n => .uint16 n
  | uint32 n => .uint32 n
  | uint64 n => .timestamp n

/-- The header value of a wire value, if its kind has one. Eight-bit numbers are widened, and a long
string that spells no text is mended. -/
def ofAmqp? : Amqp.Value → Option HeaderValue
  | .shortString s => some (shortText s)
  | .longString bs => some (text (Utf8.decodeLossy bs))
  | .bool b => some (bool b)
  | .int8 n => some (int16 n.toInt16)
  | .int16 n => some (int16 n)
  | .int32 n => some (int32 n)
  | .int64 n => some (int64 n)
  | .uint8 n => some (uint16 n.toUInt16)
  | .uint16 n => some (uint16 n)
  | .uint32 n => some (uint32 n)
  | .timestamp n => some (uint64 n)
  | _ => none

/-- What is written is read back. -/
theorem ofAmqp?_toAmqp (v : HeaderValue) : ofAmqp? v.toAmqp = some v := by
  cases v <;> simp [toAmqp, ofAmqp?, Amqp.Value.ofText, Utf8.decodeLossy_encode]

end HeaderValue

/-- The metadata of a message. -/
abbrev Metadata := Dict HeaderValue

namespace Metadata

/-- The text at a key, if the value there is one. -/
def text? (m : Metadata) (key : String) : Option String := (m.get? key).bind HeaderValue.text?

/-- The metadata in a header table. -/
def ofTable (t : Amqp.Table) : Metadata := t.filterMap HeaderValue.ofAmqp?

/-- A header table with the metadata written over it. -/
def writeTo (m : Metadata) (t : Amqp.Table) : Amqp.Table :=
  t.insertAll (m.entries.map fun e => (e.1, e.2.toAmqp))

/-- The header that carries the correlation id. -/
def correlationIdKey : String := "correlation_id"

end Metadata

end MessageBus
