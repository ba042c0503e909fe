import MessageBus.BusError
import MessageBus.Tracing.SpanContext

/-!
# Spans

A span is one timed piece of work in a trace. The recorder numbers traces and spans in the order in
which they begin, keeps the spans that are open, and reports each span once, when it ends; what is
done to a span after that has no effect.
-/

set_option autoImplicit false

namespace MessageBus

/-- The role of a span. -/
inductive SpanKind where
  | consumer
  | producer
  | internal
deriving DecidableEq, Inhabited, Repr

/-- How the work of a span turned out. -/
inductive SpanStatus where
  | unset
  | ok
  | error (description : String)
deriving DecidableEq, Inhabited, Repr

/-- What is known of a span when it begins. -/
structure SpanStart where
  name : String
  kind : SpanKind
  /-- The name of the tracer that begins it. -/
  scope : String
  attributes : List (String × String)
  parent : TraceContext
deriving DecidableEq, Inhabited, Repr

/-- A span, with what was recorded on it. -/
structure Span where
  start : SpanStart
  context : SpanContext
  status : SpanStatus := .unset
  /-- The errors recorded on it, as their texts. -/
  errors : List String := []
deriving DecidableEq, Inhabited, Repr

namespace Span

/-- The id of the parent, zero for a root. -/
def parentId (s : Span) : Nat := (s.start.parent.map SpanContext.span).getD 0

/-- The span with an outcome recorded on it. -/
def finished (s : Span) (error : Option BusError) : Span :=
  match error with
  | none => { s with status := .ok }
  | some e => { s with status := .error e.message, errors := s.errors ++ [e.message] }

end Span

/-- The spans of one process. -/
structure SpanRecorder where
  traces : Nat := 0
  spans : Nat := 0
  opened : List Span := []
  ended : List Span := []
deriving Inhabited

namespace SpanRecorder

/-- Begins a span: it takes the trace and state of its parent, or a new trace. -/
def start (r : SpanRecorder) (s : SpanStart) : SpanRecorder × SpanContext :=
  let spans := r.spans + 1
  let (traces, context) : Nat × SpanContext :=
    match s.parent with
    | some p => (r.traces, { trace := p.trace, span := spans, state := p.state })
    | none => (r.traces + 1, { trace := r.traces + 1, span := spans })
  ({ r with traces, spans, opened := ⟨s, context, .unset, []⟩ :: r.opened }, context)

/-- Ends a span that is open, after `last` was done to it. -/
def close (r : SpanRecorder) (context : SpanContext) (last : Span → Span) : SpanRecorder :=
  match r.opened.find? (·.context == context) with
  | none => r
  | some s =>
    { r with
      opened := r.opened.filter (·.context != context)
      ended := r.ended ++ [last s] }

/-- Records the outcome of a span and ends it. -/
def finish (r : SpanRecorder) (context : SpanContext) (error : Option BusError) : SpanRecorder :=
  r.close context (·.finished error)

/-- Ends a span whose work was abandoned. -/
def abandon (r : SpanRecorder) (context : SpanContext) : SpanRecorder := r.close context id

end SpanRecorder

end MessageBus
