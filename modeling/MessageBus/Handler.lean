import MessageBus.Task
import MessageBus.Tracing.Messaging

/-!
# Handlers and behaviors

A handler does the work for one message. Behaviors wrap handlers: a behavior does some work of its
own and then either answers by itself or lets the work inside go on, once, and has the last word on
its result. `Behavior.compose` puts a list of behaviors around a handler, the first one outermost.
-/

set_option autoImplicit false

namespace MessageBus

/-- The work for one message, under the span of its context. It has no say in what becomes of the
delivery. -/
structure Handler where
  work : TraceContext → Received → Task Outcome
  unreserved : ∀ context received, (work context received).Unreserved fun _ => True

instance : CoeFun Handler fun _ => TraceContext → Received → Task Outcome := ⟨Handler.work⟩

instance : Inhabited Handler := ⟨fun _ _ => return .ok (), fun _ _ => trivial⟩

/-- What a behavior decides once its own work before is done. -/
inductive Decision where
  /-- It answers by itself; the work inside is not done. -/
  | answer (result : Outcome)
  /-- The work inside is done under `context`, and `after` makes the answer of its result. -/
  | proceed (context : TraceContext) (after : Outcome → Task Outcome)

/-- A decision after which nothing reserved is asked. -/
def Decision.Unreserved : Decision → Prop
  | answer _ => True
  | proceed _ after => ∀ result, (after result).Unreserved fun _ => True

/-- A behavior around handlers. It has no say in what becomes of the delivery either. -/
structure Behavior where
  work : TraceContext → Received → Task Decision
  unreserved : ∀ context received, (work context received).Unreserved Decision.Unreserved

namespace Behavior

/-- A handler with a behavior around it. -/
def wrap (b : Behavior) (inner : Handler) : Handler where
  work context received := do
    match ← b.work context received with
    | .answer result => return result
    | .proceed context after => after (← inner context received)
  unreserved context received := by
    rw [Task.unreserved_bind]
    refine (b.unreserved context received).mono fun decision hd => ?_
    cases decision with
    | answer result => trivial
    | proceed context after =>
      rw [Task.unreserved_bind]
      exact (inner.unreserved context received).mono fun result _ => hd result

/-- A handler with behaviors around it, the first one outermost. -/
def compose (behaviors : List Behavior) (handler : Handler) : Handler :=
  behaviors.foldr wrap handler

@[simp] theorem compose_nil (handler : Handler) : compose [] handler = handler := rfl

@[simp] theorem compose_cons (b : Behavior) (bs : List Behavior) (handler : Handler) :
    compose (b :: bs) handler = b.wrap (compose bs handler) := rfl

/-- The name of the tracer of handler runs. -/
def tracingScope : String := "amqp consumer pipeline"

/-- Does the work inside under a span of its own, which ends with the work's result. -/
def tracing : Behavior where
  work context received := do
    let span ← Task.startSpan (.handler tracingScope context (received.messageType ++ " handle"))
    return .proceed (some span) fun result => do
      Task.finishSpan span result.error?
      return result
  unreserved _ _ := ⟨rfl, fun _ _ => ⟨rfl, fun _ => trivial⟩⟩

/-- Logs the message before the work inside, and the time it took after. -/
def logging : Behavior where
  work context received := do
    let started ← Task.clock
    Task.log (.info "pipeline" "handling message"
      [("message_type", .text received.messageType), ("message_id", .text received.messageId)])
    return .proceed context fun result => do
      let elapsed := ("elapsed_ms", LogValue.elapsed ((← Task.clock) - started))
      match result with
      | .ok _ => Task.log (.info "pipeline" "message handled successfully" [elapsed])
      | .error e =>
        Task.log (.warn "pipeline" "message handling failed" [("error", .text e.message), elapsed])
      return result
  unreserved _ _ := by
    refine ⟨rfl, fun _ => ⟨rfl, fun _ result => ⟨rfl, fun _ => ?_⟩⟩⟩
    cases result with
    | ok _ => exact ⟨rfl, fun _ => trivial⟩
    | error _ => exact ⟨rfl, fun _ => trivial⟩

end Behavior

end MessageBus
