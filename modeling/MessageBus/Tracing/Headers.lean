import MessageBus.Amqp.Value
import MessageBus.Log
import MessageBus.Text.LetterCase
import MessageBus.Tracing.SpanContext

/-!
# Trace contexts in headers

A span context is written into the header table of a message by its producer and read from it by its
consumer. Header names are written in lower case; only string headers are read.
-/

set_option autoImplicit false

namespace MessageBus

namespace Tracing

/-- A header table with a text set under the lower-case form of a key. -/
def setHeader (t : Amqp.Table) (key text : String) : Amqp.Table :=
  t.insert (LetterCase.lowerText key) (.ofText text)

/-- The text of a string header; a long string must spell a text. -/
def header? (t : Amqp.Table) (key : String) : Option String :=
  match t.get? key with
  | some (.longString bs) => Utf8.decode? bs
  | some (.shortString s) => some s
  | _ => none

/-- A header table with a span context written into it; nothing is written where there is none. -/
def inject (ctx : TraceContext) (t : Amqp.Table) : Amqp.Table :=
  match ctx with
  | none => t
  | some c =>
    setHeader (setHeader t SpanContext.parentKey c.parentText) SpanContext.stateKey c.state.text

/-- The span context of a header table; zero is no id. -/
def extract (t : Amqp.Table) : TraceContext := do
  let (trace, span) ← SpanContext.parseParent ((header? t SpanContext.parentKey).getD "")
  if trace == 0 || span == 0 then none
  return { trace, span, state := ((header? t SpanContext.stateKey).map TraceState.parse).getD [] }

/-- What is logged about a header that was looked up and spells no text. -/
def headerLog (t : Amqp.Table) (key : String) : List LogRecord :=
  match t.get? key with
  | some (.longString bs) =>
    match Utf8.fault? bs with
    | some (validUpTo, length) =>
      let length := match length with
        | some n => "Some(" ++ toString n ++ ")"
        | none => "None"
      [.error "otel" ("Error decoding header value Utf8Error \x7b valid_up_to: " ++
        toString validUpTo ++ ", error_len: " ++ length ++ " \x7d")]
    | none => []
  | _ => []

/-- What is logged while the span context of a header table is read: the state is looked up only
once the parent is known to be well formed. -/
def extractLog (t : Amqp.Table) : List LogRecord :=
  headerLog t SpanContext.parentKey ++
    match SpanContext.parseParent ((header? t SpanContext.parentKey).getD "") with
    | some _ => headerLog t SpanContext.stateKey
    | none => []

end Tracing

end MessageBus
