import MessageBus.Text.SnakeCase
import MessageBus.Topology.Exchange
import MessageBus.Topology.Queue

/-!
# Topology names

The exchange, the queue and the routing key a message type travels through. A configured name wins;
an empty one is derived from the type.
-/

set_option autoImplicit false

namespace MessageBus

/-- The exchange a message type is published to when none is named. -/
def exchangeName (messageType : String) : String := toSnakeCase messageType

/-- The queue a message type is consumed from when none is named. -/
def queueName (messageType : String) : String := toSnakeCase messageType ++ "_queue"

/-- The routing key of a message type when none is given. -/
def routingKey (messageType : String) : String := toSnakeCase messageType

/-- The resolved names of one consumer. -/
structure TopologyNames where
  exchange : String
  queue : String
  routingKey : String
deriving DecidableEq, Inhabited, Repr

namespace TopologyNames

/-- The names derived from a message type alone. -/
def ofMessageType (messageType : String) : TopologyNames :=
  ⟨exchangeName messageType, MessageBus.queueName messageType, MessageBus.routingKey messageType⟩

/-- A configured name, or the derived one if it is empty. -/
def choose (configured derived : String) : String :=
  if configured.isEmpty then derived else configured

/-- The names of a configured topology. -/
def resolve (messageType : String) (exchange : Exchange) (queue : Queue) (binding : Binding) :
    TopologyNames :=
  let derived := ofMessageType messageType
  ⟨choose exchange.name derived.exchange, choose queue.name derived.queue,
    choose binding.routingKey derived.routingKey⟩

end TopologyNames

end MessageBus
