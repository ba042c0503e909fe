import MessageBus.Amqp.Login
import MessageBus.Topology.Exchange
import MessageBus.Topology.Queue

/-!
# Methods

The requests that reach a broker, and the properties of a published message.
-/

set_option autoImplicit false

namespace MessageBus.Amqp

/-- The properties of a published message. -/
structure Properties where
  contentType : String
  /-- The name of the message type. -/
  kind : String
  messageId : String
  correlationId : String
  appId : String
  /-- The time of publishing, in seconds. -/
  timestamp : UInt64
  /-- Whether the broker keeps the message across restarts. -/
  persistent : Bool
  headers : Option Table := none
deriving Inhabited

/-- A request to the broker. -/
inductive Method where
  /-- The client logs in and names itself. -/
  | startOk (login : Login) (name : String)
  | openConnection (vhost : String)
  | closeConnection (code : Nat) (text : String)
  | openChannel
  | closeChannel (code : Nat) (text : String)
  /-- Limits how many deliveries a consumer may hold unsettled. -/
  | prefetch (count : UInt16)
  | declareExchange (name : String) (exchange : Exchange)
  | declareQueue (name : String) (queue : Queue)
  | bindQueue (queue exchange routingKey : String) (arguments : Table)
  | consume (queue tag : String) (noAck : Bool)
  | cancel (tag : String)
  | ack (tag : UInt64)
  | nack (tag : UInt64) (requeue : Bool)
  | publish (exchange routingKey : String) (properties : Properties) (body : Bytes)
deriving Inhabited

namespace Method

/-- The name of a method on the wire. -/
def wireName : Method → String
  | startOk _ _ => "connection.start-ok"
  | openConnection _ => "connection.open"
  | closeConnection _ _ => "connection.close"
  | openChannel => "channel.open"
  | closeChannel _ _ => "channel.close"
  | prefetch _ => "basic.qos"
  | declareExchange _ _ => "exchange.declare"
  | declareQueue _ _ => "queue.declare"
  | bindQueue _ _ _ _ => "queue.bind"
  | consume _ _ _ => "basic.consume"
  | cancel _ => "basic.cancel"
  | ack _ => "basic.ack"
  | nack _ _ => "basic.nack"
  | publish _ _ _ _ => "basic.publish"

/-- The exchange or queue a method is about; a binding is about its queue. -/
def subject? : Method → Option String
  | declareExchange name _ => some name
  | declareQueue name _ => some name
  | bindQueue queue _ _ _ => some queue
  | consume queue _ _ => some queue
  | publish exchange _ _ _ => some exchange
  | _ => none

/-- Whether the client waits for an answer. -/
def awaitsAnswer : Method → Bool
  | ack _ | nack _ _ | publish _ _ _ _ => false
  | _ => true

end Method

/-- A request as the broker records it, with the number of its channel. -/
structure Frame where
  channel : Option Nat
  method : Method
deriving Inhabited

end MessageBus.Amqp
