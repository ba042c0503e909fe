/-!
# Errors

What can go wrong on the bus, as causes; `BusError.message` is the text each cause is shown with.
-/

set_option autoImplicit false

namespace MessageBus

/-- The causes of a failure. -/
inductive BusError where
  /-- A fault of the bus itself. -/
  | internal
  /-- The broker could not be reached, or is not connected. -/
  | connection (detail : String)
  /-- No channel could be opened. -/
  | channel (detail : String)
  /-- The broker refused an exchange. -/
  | exchangeDeclaration (exchange : String)
  /-- The broker refused a queue. -/
  | queueDeclaration (queue : String)
  /-- The broker refused to bind a queue to an exchange. -/
  | binding (exchange queue : String)
  /-- The broker refused the prefetch of a queue's consumer. -/
  | prefetch (queue : String)
  /-- The broker refused a subscription. -/
  | subscription (queue : String)
  /-- A payload is not a message of its type. -/
  | deserialization (detail : String)
  /-- A message cannot be written. -/
  | serialization (detail : String)
  /-- No message type of that name is known. -/
  | unregisteredType (name : String)
  /-- A handler failed. -/
  | handler (detail : String)
  /-- A handler did not finish before its deadline, given in milliseconds. -/
  | handlerTimeout (millis : Nat)
  /-- A configuration cannot be used. -/
  | configuration (detail : String)
  /-- The broker did not take a message. -/
  | publishing (detail : String)
  /-- A delivery could not be acknowledged. -/
  | ack
  /-- A delivery could not be handed back. -/
  | nack
deriving DecidableEq, Inhabited, Repr

namespace BusError

/-- The text an error is shown with. -/
def message : BusError → String
  | internal => "internal error"
  | connection detail => s!"failure to connect: {detail}"
  | channel detail => s!"failure to create a channel: {detail}"
  | exchangeDeclaration exchange => s!"failure to declare an exchange `{exchange}`"
  | queueDeclaration queue => s!"failure to declare a queue `{queue}`"
  | binding exchange queue => s!"failure to binding exchange `{exchange}` to queue `{queue}`"
  | prefetch queue => s!"failure to configure qos `{queue}`"
  | subscription queue => s!"failure to declare consumer `{queue}`"
  | deserialization detail => s!"failure to deserialize payload: {detail}"
  | serialization detail => s!"failure to serialize message: {detail}"
  | unregisteredType name => s!"message type `{name}` is not registered"
  | handler detail => s!"handler failure: {detail}"
  | handlerTimeout millis => s!"handler did not complete within {millis}ms"
  | configuration detail => s!"invalid configuration: {detail}"
  | publishing detail => s!"failure to publish: {detail}"
  | ack => "failure to ack message"
  | nack => "failure to nack message"

/-- The errors that arise while exchanges, queues and subscriptions are set up. -/
def isTopology : BusError → Bool
  | exchangeDeclaration _ | queueDeclaration _ | binding _ _ | prefetch _ | subscription _ => true
  | _ => false

end BusError

/-- The result of an operation without a value of its own. -/
abbrev Outcome := Except BusError Unit

/-- The error of an outcome, if it is one. -/
def Outcome.error? : Outcome → Option BusError
  | .ok _ => none
  | .error e => some e

end MessageBus
