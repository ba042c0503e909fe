import MessageBus.BusError.Json
import MessageBus.Tracing.Span

/-!
# Spans as JSON

The form of a span that has ended: what it was begun with, its ids, how its work turned out, and the
errors recorded on it.
-/

set_option autoImplicit false

namespace MessageBus

/-- The name of the role of a span. -/
def SpanKind.label : SpanKind → String
  | consumer => "Consumer"
  | producer => "Producer"
  | internal => "Internal"

/-- The form of an outcome recorded on a span. -/
def SpanStatus.toJson : SpanStatus → Json
  | unset => .string "Unset"
  | ok => .string "Ok"
  | error description => .object [("Error", .string (concealed description))]

namespace TraceContext

/-- The ids of a context: of its trace, and of its span. Without a span they are zero. -/
def idsToJson (c : TraceContext) : Json :=
  .array [.string ((c.map SpanContext.traceText).getD (hexPadded 32 0)),
    .string ((c.map SpanContext.spanText).getD (hexPadded 16 0))]

end TraceContext

namespace Span

/-- The form of an error recorded on a span. -/
def errorToJson (text : String) : Json :=
  .object [("name", .string "exception"),
    ("attrs", .object [("exception.message", .string (concealed text))])]

/-- The form of a span. -/
def toJson (s : Span) : Json :=
  .object [("name", .string s.start.name), ("kind", .string s.start.kind.label),
    ("scope", .string s.start.scope), ("trace", .string s.context.traceText),
    ("span", .string s.context.spanText), ("parent", .string (hexPadded 16 s.parentId)),
    ("state", .string s.context.state.text),
    ("attrs", .object (s.start.attributes.map fun a => (a.1, .string a.2))),
    ("status", s.status.toJson), ("events", .array (s.errors.map errorToJson))]

end Span

end MessageBus
