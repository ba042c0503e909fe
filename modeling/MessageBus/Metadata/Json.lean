import MessageBus.Amqp.Value.Json
import MessageBus.Metadata

/-!
# Metadata as JSON

The form of a value of the metadata names its kind beside what it holds; a bare text is a text.
-/

set_option autoImplicit false

namespace MessageBus

namespace HeaderValue

/-- The value that a JSON value describes. -/
def ofJson (j : Json) : HeaderValue :=
  let v := (j.field? "v").getD .null
  let n := v.toInt
  match j, j.textAt "t" with
  | .string s, _ => .text s
  | _, "ShortString" => .shortText v.text
  | _, "LongString" => .text v.text
  | _, "Bool" => .bool v.isTrue
  | _, "Int" => .int16 n.toInt16
  | _, "LongInt" => .int32 n.toInt32
  | _, "LongLongInt" => .int64 n.toInt64
  | _, "Uint" => .uint16 n.toNat.toUInt16
  | _, "LongUint" => .uint32 n.toNat.toUInt32
  | _, "LongLongUint" => .uint64 n.toNat.toUInt64
  | j, _ => .text j.text

/-- The form of a value. -/
def toJson : HeaderValue → Json
  | .shortText s => .tagged "ShortString" (.string s)
  | .text s => .tagged "LongString" (.string s)
  | .bool b => .tagged "Bool" (.bool b)
  | .int16 n => .tagged "Int" (.ofInt n.toInt)
  | .int32 n => .tagged "LongInt" (.ofInt n.toInt)
  | .int64 n => .tagged "LongLongInt" (.digits n.toInt)
  | .uint16 n => .tagged "Uint" (.ofInt n.toNat)
  | .uint32 n => .tagged "LongUint" (.ofInt n.toNat)
  | .uint64 n => .tagged "LongLongUint" (.digits n.toNat)

end HeaderValue

namespace Metadata

/-- The metadata that a value describes. -/
def ofJson (j : Json) : Metadata := .ofList (j.fields.map fun e => (e.1, HeaderValue.ofJson e.2))

/-- The form of metadata. -/
def toJson (m : Metadata) : Json := .object (m.entries.map fun e => (e.1, e.2.toJson))

end Metadata

end MessageBus
