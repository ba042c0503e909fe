import MessageBus.BusError
import MessageBus.Json.Reader
import MessageBus.Json.Writer

/-!
# Messages

A message type has a name, which travels with every message and picks the reader at the other end,
and a codec, which turns the fields of a message into JSON and back. What a codec does is the affair
of the type. `Message.write` gives the text of a message, `MessageType.read?` reads one.
-/

set_option autoImplicit false

namespace MessageBus

/-- What a field holds. The entries of a dictionary stand in the order of their keys. A value that
is put together in another way, as a variant or a tuple, is a record or a list of its parts. -/
inductive Datum where
  | text (s : String)
  | flag (b : Bool)
  | integer (n : Int)
  | list (items : List Datum)
  | dictionary (entries : List (String × Datum))
  /-- Nothing, where there need not be anything. -/
  | absent
  /-- Something, where there need not be anything. -/
  | present (d : Datum)
  | record (fields : List Datum)
deriving Inhabited

/-- How the messages of a type are written as JSON and read back. -/
structure Codec where
  /-- Whether some fields are those of a message of the type. -/
  IsValue : List Datum → Prop
  /-- The JSON form of some fields, or why there is none. -/
  encode : List Datum → Except String Json
  /-- The fields that a JSON value describes in which so many containers may be open at once. -/
  decode : Nat → Json → Option (List Datum)
deriving Inhabited

/-- A type of messages. -/
structure MessageType where
  name : String
  codec : Codec
  /-- The id of the message with some fields. -/
  id : List Datum → String
deriving Inhabited

/-- A message: its type and what its fields hold. -/
structure Message where
  type : MessageType
  fields : List Datum
deriving Inhabited

namespace MessageType

/-- The most containers that may be open at once in the text of a message. -/
def maxOpen : Nat := 127

/-- The message that some bytes spell. -/
def read? (t : MessageType) (bs : Bytes) : Option Message := do
  return ⟨t, ← t.codec.decode maxOpen (← Json.read? bs)⟩

end MessageType

namespace Message

/-- The name of the type of a message. -/
def name (m : Message) : String := m.type.name

/-- The id of a message. -/
def id (m : Message) : String := m.type.id m.fields

/-- Whether the fields of a message are those of a message of its type. -/
def IsValue (m : Message) : Prop := m.type.codec.IsValue m.fields

/-- The JSON form of a message, or why there is none. -/
def json (m : Message) : Except String Json := m.type.codec.encode m.fields

/-- The text of a message, or why there is none. -/
def write (m : Message) : Except String String := m.json.map Json.write

end Message

end MessageBus
