import MessageBus.Amqp.Value
import MessageBus.Tracing.Headers
import MessageBus.Tracing.Span

/-!
# The spans of messaging

Which spans the bus begins: one for each delivery a consumer receives, one for each publish, and one
for each handler run that is traced.
-/

set_option autoImplicit false

namespace MessageBus.SpanStart

/-- The attribute every span of the bus has. -/
def systemAttribute : String × String := ("messaging.system", "rabbitmq")

/-- The attributes of an exchange or queue. -/
def destinationAttributes (kind name routingKey : String) : List (String × String) :=
  [ systemAttribute, ("messaging.destination.kind", kind), ("messaging.destination.name", name),
    ("messaging.rabbitmq.destination.routing_key", routingKey) ]

/-- The span of a delivery, below the span found in its headers. -/
def consumer (scope : String) (headers : Amqp.Table)
    (name destination routingKey messageId : String) : SpanStart where
  name := name ++ " receive"
  kind := .consumer
  scope
  attributes :=
    destinationAttributes "queue" destination routingKey ++ [("messaging.message.id", messageId)]
  parent := Tracing.extract headers

/-- The span of a publish. -/
def producer (scope : String) (parent : TraceContext) (exchange routingKey : String) :
    SpanStart where
  name := exchange ++ " publish"
  kind := .producer
  scope
  attributes := destinationAttributes "exchange" exchange routingKey
  parent

/-- The span of one run of a handler. -/
def handler (scope : String) (parent : TraceContext) (name : String) : SpanStart where
  name
  kind := .internal
  scope
  attributes := [systemAttribute]
  parent

end MessageBus.SpanStart
