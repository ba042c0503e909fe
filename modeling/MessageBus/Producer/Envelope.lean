import MessageBus.Amqp.Method
import MessageBus.Message
import MessageBus.Metadata

/-!
# Envelopes

The properties a message is published with. A message without an id of its own gets a fresh one, and
so does one whose metadata name no correlation id.
-/

set_option autoImplicit false

namespace MessageBus

/-- What a publish takes from its surroundings: ids that nobody has used, and the time in
seconds. -/
structure Stamp where
  messageId : String
  correlationId : String
  seconds : UInt64
deriving DecidableEq, Inhabited, Repr

/-- A text, or another one in place of an empty text. -/
def orFresh (text fresh : String) : String := if text.isEmpty then fresh else text

/-- The properties of an outgoing message, without headers. -/
def envelope (message : Message) (metadata : Metadata) (contentType appId : String)
    (persistent : Bool) (stamp : Stamp) : Amqp.Properties where
  contentType
  kind := message.name
  messageId := orFresh message.id stamp.messageId
  correlationId := orFresh ((metadata.text? Metadata.correlationIdKey).getD "") stamp.correlationId
  appId
  timestamp := stamp.seconds
  persistent

end MessageBus
