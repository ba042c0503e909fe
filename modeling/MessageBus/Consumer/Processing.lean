import MessageBus.Consumer.Settings
import MessageBus.Retry.Run
import MessageBus.Task.Deadline

/-!
# Processing a delivery

What happens to one delivery once it may be handled: a span is opened, the body is read, every
handler runs in order, each under the behaviors, the retry policy and the deadline, and the delivery
is settled. A delivery that all handlers took is acknowledged and the observers are told of its
message; one that a handler refused goes back to its queue. Where the broker acknowledges by itself
nothing is ever settled.
-/

set_option autoImplicit false

namespace MessageBus

namespace ConsumerSettings

/-- The name of the tracer of deliveries. -/
def tracingScope : String := "amqp consumer"

/-- One handler under the behaviors, the retry policy and the deadline. The behaviors are put around
it anew for every attempt. -/
def runHandler (s : ConsumerSettings) (context : TraceContext) (received : Received)
    (handler : Handler) : Task Outcome := do
  let attempts := s.retry.run fun _ => Behavior.compose s.behaviors handler context received
  match s.handlerTimeout with
  | none => attempts
  | some limit =>
    match ← attempts.within limit.ceilMillis with
    | some result => return result
    | none => return .error (.handlerTimeout limit.toMillis)

/-- The handlers in order, up to the first one that fails. -/
def runHandlers (s : ConsumerSettings) (context : TraceContext) (received : Received) :
    List Handler → Task Outcome
  | [] => return .ok ()
  | handler :: rest => do
    match ← s.runHandler context received handler with
    | .ok _ => s.runHandlers context received rest
    | .error e =>
      Task.log (.error "consumer" "error whiling handling msg"
        [("error", .text e.message), ("kind", .text received.messageType),
          ("message_id", .text received.messageId)])
      return .error e

/-- Tells the observers of a message, in the order in which they were registered. -/
def notify (message : Message) : List String → Task Unit
  | [] => return ()
  | observer :: rest => do
    Task.note 0 (.notified observer message)
    notify message rest

/-- Tells the observers that are registered now. -/
def notifyObservers (received : Received) : Task Unit := do
  notify received.message (← Task.observers)

/-- Settles a delivery whose handlers all succeeded, or not. Where `settles` is false there is
nobody to settle it with. -/
def settle (settles handled : Bool) (received : Received) : Task Outcome := do
  match settles, handled with
  | false, true =>
    notifyObservers received
    return .ok ()
  | false, false => return .ok ()
  | true, true =>
    match ← Task.settle .ack with
    | .error e => return .error e
    | .ok _ =>
      Task.log (.debug "consumer" "message successfully processed")
      notifyObservers received
      return .ok ()
  | true, false =>
    Task.log (.warn "consumer" "requeuing message for latter")
    Task.settle (.nack true)

/-- Whether an outcome is a success. -/
def succeeded : Outcome → Bool
  | .ok _ => true
  | .error _ => false

/-- Runs the handlers and settles the delivery. -/
def handle (s : ConsumerSettings) (handlers : List Handler) (settles : Bool)
    (context : TraceContext) (received : Received) : Task Outcome := do
  let handled ← s.runHandlers context received handlers
  settle settles (succeeded handled) received

/-- Settles a delivery whose body cannot be read, as the settings say. -/
def settleUndecodable (s : ConsumerSettings) (delivery : Delivery) : Task Outcome := do
  if s.autoAck then return .ok ()
  match s.undecodable with
  | .reject => Task.settle (.nack false)
  | .ack => Task.settle .ack
  | .ignore =>
    Task.log (.warn "consumer" "undecodable delivery left unacknowledged"
      [("tag", .number delivery.tag.toNat)])
    return .ok ()

/-- The error the span of a delivery ends with: that of its settlement; where nothing settles it,
that of its handlers. -/
def spanError (settles : Bool) (handled settled : Outcome) : Option BusError :=
  match settled with
  | .error e => some e
  | .ok _ => if settles then none else handled.error?

/-- A delivery as its handlers see it. -/
def receivedOf (delivery : Delivery) (message : Message) : Received where
  message
  metadata := (delivery.headers.map Metadata.ofTable).getD .empty
  contentType := if delivery.contentType.isEmpty then jsonContentType else delivery.contentType
  messageType := delivery.kind
  timestamp := delivery.timestamp
  tag := delivery.tag
  messageId := delivery.messageId
  correlationId := delivery.correlationId

/-- The span of a delivery. -/
def deliverySpan (names : TopologyNames) (delivery : Delivery) : SpanStart :=
  .consumer tracingScope (delivery.headers.getD .empty) names.queue names.queue
    (if delivery.routingKey.isEmpty then names.routingKey else delivery.routingKey)
    delivery.messageId

/-- Writes some records to the log. -/
def logAll : List LogRecord → Task Unit
  | [] => return ()
  | r :: rest => do
    Task.log r
    logAll rest

/-- Everything that happens to one delivery once it may be handled. -/
def process (s : ConsumerSettings) (registry : Registry) (names : TopologyNames)
    (handlers : List Handler) (delivery : Delivery) : Task Outcome := do
  logAll (Tracing.extractLog (delivery.headers.getD .empty))
  let span ← Task.startSpan (deliverySpan names delivery)
  Task.log (.debug "consumer" ("received: " ++ delivery.kind ++ " - queue: " ++ names.queue ++
    " - tag: " ++ toString delivery.tag.toNat))
  match registry.deserialize delivery.data delivery.kind delivery.contentType with
  | .error e =>
    Task.log (.error "consumer" "failure to deserialize the delivery"
      [("error", .text e.message), ("kind", .text delivery.kind), ("queue", .text names.queue)])
    let result ← s.settleUndecodable delivery
    Task.finishSpan span (some e)
    return result
  | .ok message =>
    let received := receivedOf delivery message
    let settles := !s.autoAck
    let handled ← s.runHandlers (some span) received handlers
    let result ← settle settles (succeeded handled) received
    Task.finishSpan span (spanError settles handled result)
    return result

end ConsumerSettings

end MessageBus
