import MessageBus.Message.Shape

/-!
# A catalogue of message types

The message types that travel over an example bus: plain records, one that refers to itself, one
without an id, one that cannot be written, and one without a name.
-/

set_option autoImplicit false

namespace MessageBus.Catalogue

/-- Unsigned numbers of so many bits. -/
def unsigned (bits : Nat) : Shape := .integer 0 (1 <<< bits - 1 : Nat)

/-- Signed numbers of so many bits. -/
def signed (bits : Nat) : Shape := .integer (-(1 <<< (bits - 1) : Nat)) (1 <<< (bits - 1) - 1 : Nat)

/-- An order with its amount. -/
def orderCreated : MessageType :=
  .ofShape "orderCreated" [("id", .text), ("amount", unsigned 64)] (some "id")

/-- A price, with its currency if it is known. -/
def priceChanged : MessageType :=
  .ofShape "priceChanged" [("id", .text), ("price", signed 32), ("currency", .optional .text)]
    (some "id")

/-- A request, with the request that caused it. -/
def requestSent : MessageType :=
  .ofShape "HTTPRequestSent"
    [("id", .text), ("status", unsigned 16), ("secure", .flag), ("tags", .list .text),
      ("attrs", .dictionary (signed 64)), ("cause", .optional .again)]
    (some "id")

/-- A sign of life. -/
def heartBeat : MessageType := .ofShape "system.heart-beat V2" [("seq", unsigned 8)]

/-- A type whose messages cannot be written. -/
def unserializable : MessageType :=
  (MessageType.ofShape "unserializable" [("id", .text)] (some "id")).unwritable

/-- A type without a name. -/
def nameless : MessageType := .ofShape "" [("id", .text)] (some "id")

/-- Every type of the catalogue. -/
def all : List MessageType :=
  [orderCreated, priceChanged, requestSent, heartBeat, unserializable, nameless]

/-- The types a bus knows unless it is told otherwise. -/
def usual : List MessageType := [orderCreated, priceChanged, requestSent, heartBeat]

/-- The type of a name. -/
def find? (name : String) : Option MessageType := all.find? (·.name == name)

end MessageBus.Catalogue
