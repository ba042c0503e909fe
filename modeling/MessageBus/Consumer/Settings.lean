import MessageBus.Amqp.Value.Description
import MessageBus.Handler
import MessageBus.Retry
import MessageBus.Serializer
import MessageBus.Topology.Names

/-!
# Consumer settings

What one consumer consumes and how. The prefetch advertised to the broker is the number of workers
times the prefetch of each, and saturates at the widest number the broker takes.
-/

set_option autoImplicit false

namespace MessageBus

/-- What becomes of a delivery whose body cannot be read. -/
inductive Undecodable where
  /-- It is refused for good. -/
  | reject
  /-- It is acknowledged and dropped. -/
  | ack
  /-- It is left alone until the channel closes. -/
  | ignore
deriving DecidableEq, Inhabited, Repr

/-- The settings of one consumer. -/
structure ConsumerSettings where
  name : String
  messageType : String
  exchange : Exchange := { name := "", kind := .topic, durable := true }
  queue : Queue := { name := "", durable := true }
  binding : Binding := { routingKey := "" }
  /-- The number of workers, and the most deliveries that are handled at once. -/
  concurrencyLimit : UInt64 := 1
  /-- The prefetch of each worker. -/
  prefetchCount : UInt16 := 4
  /-- Whether the broker counts a delivery as acknowledged once it is sent. -/
  autoAck : Bool := false
  retry : RetryPolicy := .standard
  /-- The time each handler has for all its attempts. -/
  handlerTimeout : Option Duration := some (.ofMillis 30000)
  undecodable : Undecodable := .reject
  /-- The behaviors around each handler, the first one outermost. -/
  behaviors : List Behavior := []
  handlers : List Handler := []
deriving Inhabited

namespace ConsumerSettings

/-- The settings of a message type: every name is derived from it. -/
def ofMessageType (messageType : String) : ConsumerSettings where
  name := toSnakeCase messageType ++ "_consumer"
  messageType
  exchange := { name := exchangeName messageType, kind := .topic, durable := true }
  queue := { name := queueName messageType, durable := true }
  binding := { routingKey := MessageBus.routingKey messageType }

/-- The names of the consumer's topology. -/
def names (s : ConsumerSettings) : TopologyNames :=
  .resolve s.messageType s.exchange s.queue s.binding

/-- The prefetch advertised to the broker: the limit, cut to sixteen bits, times the count, cut
again. -/
def prefetch (s : ConsumerSettings) : UInt16 :=
  let limit := min s.concurrencyLimit.toNat (UInt16.size - 1)
  (min (limit * s.prefetchCount.toNat) (UInt16.size - 1)).toUInt16

/-- How many deliveries may be handled at once: at least one. -/
def permits (s : ConsumerSettings) : Nat := max s.concurrencyLimit.toNat 1

/-- The most permits that can be given out. -/
def maxPermits : Nat := 1 <<< 61 - 1

/-- Whether there can be a permit for every delivery that may be handled at once. -/
def hasPermits (s : ConsumerSettings) : Bool := s.permits ≤ maxPermits

end ConsumerSettings

/-- A message type that a bus can use: it has a name and is registered. -/
def checkMessageType (r : Registry) (messageType : String) : Outcome :=
  if messageType.isEmpty then .error (.configuration "message type is required")
  else if !r.contains messageType then
    .error (.configuration s!"message type {messageType} is not registered")
  else .ok ()

namespace ConsumerSettings

/-- Whether the settings can be used: the message type first, then the limit, then the prefetch. -/
def check (s : ConsumerSettings) (r : Registry) : Outcome := do
  checkMessageType r s.messageType
  let name := s.name
  if s.concurrencyLimit = 0 then
    throw (.configuration s!"consumer {name} has a zero concurrency limit")
  if s.prefetchCount = 0 then
    throw (.configuration s!"consumer {name} has a zero prefetch count")

/-- How settings are shown in a diagnostic. -/
def describe (s : ConsumerSettings) : String :=
  let flag (b : Bool) := toString b
  let number (n : Option Int32) := match n with
    | some n => "Some(" ++ toString n.toInt ++ ")"
    | none => "None"
  let text (t : Option String) := match t with
    | some t => "Some(" ++ quoted t ++ ")"
    | none => "None"
  let kind := match s.exchange.kind with
    | .direct => "Direct"
    | .fanout => "Fanout"
    | .topic => "Topic"
    | .headers => "Headers"
    | .delayed => "XMessageDelayed"
  let exchange := "ExchangeDefinition \x7b name: " ++ quoted s.exchange.name ++
    ", kind: " ++ kind ++ ", delete: " ++ flag s.exchange.autoDelete ++
    ", durable: " ++ flag s.exchange.durable ++ ", passive: " ++ flag s.exchange.passive ++
    ", internal: " ++ flag s.exchange.internal ++
    ", params: " ++ s.exchange.arguments.describe ++ " \x7d"
  let queue := "QueueDefinition \x7b name: " ++ quoted s.queue.name ++ ", durable: " ++
    flag s.queue.durable ++ ", delete: " ++ flag s.queue.autoDelete ++ ", exclusive: " ++
    flag s.queue.exclusive ++ ", passive: " ++ flag s.queue.passive ++ ", ttl: " ++
    number s.queue.ttl ++ ", max_length: " ++ number s.queue.maxLength ++
    ", max_length_bytes: " ++ number s.queue.maxLengthBytes ++
    ", dead_letter_exchange: " ++ text s.queue.deadLetterExchange ++
    ", dead_letter_routing_key: " ++ text s.queue.deadLetterRoutingKey ++
    ", params: " ++ s.queue.extra.describe ++ " \x7d"
  "RabbitMQConsumerConfiguration \x7b name: " ++ quoted s.name ++ ", message_type: " ++
    quoted s.messageType ++ ", exchange: " ++ exchange ++ ", queue: " ++ queue ++
    ", binding: QueueBinding \x7b routing_key: " ++ quoted s.binding.routingKey ++
    ", params: " ++ s.binding.arguments.describe ++ " \x7d, concurrency_limit: " ++
    toString s.concurrencyLimit.toNat ++
    ", prefetch_count: " ++ toString s.prefetchCount.toNat ++ ", auto_ack: " ++ flag s.autoAck ++
    ", pipelines: " ++ toString s.behaviors.length ++ ", handlers: " ++
    toString s.handlers.length ++ ", .. \x7d"

end ConsumerSettings

end MessageBus
