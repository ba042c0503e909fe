import MessageBus.Log
import MessageBus.Message

/-!
# Serialization

Messages to bytes and back. Reading goes through a registry of message types; it first looks at the
content type, then at the body, then at the type.
-/

set_option autoImplicit false

namespace MessageBus

/-- The content type of JSON bodies. -/
def jsonContentType : String := "application/json"

/-- The message types a bus can read. -/
structure Registry where
  types : List MessageType
deriving Inhabited

namespace Registry

/-- The type registered under a name; the one registered last wins. -/
def find? (r : Registry) (name : String) : Option MessageType :=
  r.types.reverse.find? (·.name == name)

/-- Whether a type of that name is registered. -/
def contains (r : Registry) (name : String) : Bool := (r.find? name).isSome

/-- The registry with one more type. -/
def register (r : Registry) (t : MessageType) : Registry := ⟨r.types ++ [t]⟩

end Registry

/-- A message as bytes, with their content type. -/
structure Encoded where
  data : Bytes
  contentType : String
deriving DecidableEq, Inhabited

/-- The bytes of a message. -/
def serialize (m : Message) : Except BusError Encoded :=
  match m.write with
  | .ok text => .ok ⟨Utf8.encode text, jsonContentType⟩
  | .error reason => .error (.serialization reason)

/-- What is logged when a message cannot be written. -/
def serializeLog (m : Message) : List LogRecord :=
  match m.write with
  | .ok _ => []
  | .error reason =>
    [.error "serializer" "failure to serialize" [("error", .text reason), ("kind", .text m.name)]]

namespace Registry

/-- The message of some bytes. An empty content type stands for JSON. -/
def deserialize (r : Registry) (data : Bytes) (typeName contentType : String) :
    Except BusError Message :=
  let contentType := if contentType.isEmpty then jsonContentType else contentType
  if contentType ≠ jsonContentType then
    .error (.deserialization s!"unsupported content type `{contentType}`")
  else if data.isEmpty then .error (.deserialization "message body is empty")
  else
    match r.find? typeName with
    | none => .error (.unregisteredType typeName)
    | some t =>
      match t.read? data with
      | some m => .ok m
      | none =>
        .error (.deserialization s!"type `{typeName}`: the body is no message of this type")

end Registry

end MessageBus
