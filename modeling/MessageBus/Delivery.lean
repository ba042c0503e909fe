import MessageBus.Message
import MessageBus.Metadata
import MessageBus.Text.Quoted

/-!
# Deliveries

What a consumer receives: a delivery as it came off the wire, and the same delivery once its body is
read.
-/

set_option autoImplicit false

namespace MessageBus

/-- A delivery off the wire. Properties that are not set are empty. -/
structure Delivery where
  exchange : String := ""
  routingKey : String := ""
  contentType : String := ""
  /-- The name of the message type. -/
  kind : String := ""
  headers : Option Amqp.Table := none
  messageId : String := ""
  correlationId : String := ""
  timestamp : Option UInt64 := none
  tag : UInt64 := 1
  redelivered : Bool := false
  data : Bytes := []
deriving Inhabited

/-- How a delivery is shown in a diagnostic. -/
def Delivery.describe (d : Delivery) : String :=
  "InboundDelivery \x7b exchange: " ++ quoted d.exchange ++ ", routing_key: " ++
    quoted d.routingKey ++ ", kind: " ++ quoted d.kind ++ ", message_id: " ++ quoted d.messageId ++
    ", delivery_tag: " ++ toString d.tag.toNat ++ ", redelivered: " ++ toString d.redelivered ++
    ", len: " ++ toString d.data.length ++ ", .. \x7d"

/-- A delivery whose body has been read, as handlers see it. -/
structure Received where
  message : Message
  metadata : Metadata := .empty
  contentType : String := ""
  messageType : String := ""
  timestamp : Option UInt64 := none
  tag : UInt64 := 1
  messageId : String := ""
  correlationId : String := ""
deriving Inhabited

/-- What the broker is told about a delivery. -/
inductive Settlement where
  | ack
  | nack (requeue : Bool)
deriving DecidableEq, Inhabited, Repr

end MessageBus
