import MessageBus.Consumer.Settings

/-!
# Producer settings

Where the messages of one type are published.
-/

set_option autoImplicit false

namespace MessageBus

/-- The settings of the publishing side of one message type. -/
structure ProducerSettings where
  messageType : String
  exchange : Exchange
  routingKey : String
  /-- Whether the broker keeps messages across restarts. -/
  persisted : Bool := true
deriving Inhabited

namespace ProducerSettings

/-- The settings of a message type: every name is derived from it. -/
def ofMessageType (messageType : String) : ProducerSettings where
  messageType
  exchange := { name := exchangeName messageType, kind := .topic, durable := true }
  routingKey := MessageBus.routingKey messageType

/-- Whether the settings can be used. -/
def check (s : ProducerSettings) (r : Registry) : Outcome := checkMessageType r s.messageType

end ProducerSettings

end MessageBus
