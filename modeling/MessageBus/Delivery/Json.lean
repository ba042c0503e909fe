import MessageBus.BusError.Json
import MessageBus.Delivery
import MessageBus.Message.Json
import MessageBus.Metadata.Json
import MessageBus.Scene

/-!
# Deliveries as JSON

How deliveries, and deliveries whose body has been read, are described, and who settles them.
-/

set_option autoImplicit false

namespace MessageBus

/-- The delivery that a value describes. -/
def Delivery.ofJson (j : Json) : Delivery where
  exchange := j.textAt "exchange"
  routingKey := j.textAt "routing_key"
  contentType := j.textAt "content_type"
  kind := j.textAt "type"
  headers := (j.field? "headers").map Amqp.Table.ofJson
  messageId := j.textAt "message_id"
  correlationId := j.textAt "correlation_id"
  timestamp := (j.natAt? "timestamp").map Nat.toUInt64
  tag := ((j.natAt? "tag").getD 1).toUInt64
  redelivered := j.flagAt "redelivered" false
  data := ((j.field? "data").map Json.bytes).getD []

/-- The acknowledger that a value describes in a field of its own. -/
def Acknowledger.ofJson (tag : UInt64) (j : Json) : Acknowledger :=
  let a := j.fieldOrEmpty "acker"
  .scripted tag ((a.field? "ack_err").map BusError.ofJson)
    ((a.field? "nack_err").map BusError.ofJson)

namespace Received

/-- The delivery that a value describes, with a message in place of one that is not given. -/
def ofJson? (default : Message) (j : Json) : Option Received := do
  let message ← match j.field? "message" with
    | some m => Message.ofJson? m
    | none => some default
  return {
    message
    metadata := .ofJson ((j.field? "metadata").getD .null)
    contentType := (j.textAt? "content_type").getD jsonContentType
    messageType := (j.textAt? "message_type").getD message.name
    timestamp := (j.natAt? "timestamp").map Nat.toUInt64
    tag := ((j.natAt? "tag").getD 1).toUInt64
    messageId := (j.textAt? "message_id").getD message.id
    correlationId := j.textAt "correlation_id" }

/-- The form of a delivery; the amount of an order is shown by itself. -/
def toJson (r : Received) : Json :=
  let amount := match r.message.name == Catalogue.orderCreated.name, r.message.fields with
    | true, [_, .integer n] => Json.digits n
    | _, _ => .null
  .object [("message", r.message.form), ("amount", amount), ("metadata", r.metadata.toJson),
    ("content_type", .string r.contentType), ("message_type", .string r.messageType),
    ("timestamp", (r.timestamp.map fun t => Json.digits t.toNat).getD .null),
    ("delivery_tag", .digits r.tag.toNat), ("message_id", .string r.messageId),
    ("correlation_id", .string r.correlationId)]

end Received

end MessageBus
