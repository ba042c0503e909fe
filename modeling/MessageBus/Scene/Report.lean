import MessageBus.Delivery.Json
import MessageBus.Tracing.Json

/-!
# What a scene has to report

The journal, the log and the ended spans of a scene as JSON. Times that were measured while running
differ from run to run, so their forms do not tell them. A journal whose lines came about side by
side is put in the order of their times and tags.
-/

set_option autoImplicit false

namespace MessageBus

/-! ## Log records -/

/-- The name of a level. -/
def LogLevel.label : LogLevel → String
  | debug => "DEBUG"
  | info => "INFO"
  | warn => "WARN"
  | error => "ERROR"

/-- The form of a field of a record. -/
def LogValue.toJson : LogValue → Json
  | text s => .string (concealed s)
  | number n => .ofInt n
  | elapsed _ => .string "<ms>"

/-- The form of a record. -/
def LogRecord.toJson (r : LogRecord) : Json :=
  .object [("level", .string r.level.label), ("module", .string r.source),
    ("message", .string r.message), ("fields", .object (r.fields.map fun f => (f.1, f.2.toJson)))]

/-! ## The journal -/

/-- The fields in the form of an occurrence. -/
def Occurrence.fields : Occurrence → List (String × Json)
  | .attempted n => [("ev", .string "attempt"), ("n", .ofInt n)]
  | .entered name call received context =>
    [("ev", .string "handler"), ("name", .string name), ("call", .ofInt call)] ++
      (received.map fun r => ("context", r.toJson)).toList ++
      (context.map fun c => ("span", TraceContext.idsToJson c)).toList
  | .handled name call result =>
    [("ev", .string "handled"), ("name", .string name), ("call", .ofInt call),
      ("result", Outcome.toJson result)]
  | .before name => [("ev", .string "before"), ("name", .string name)]
  | .after name result =>
    [("ev", .string "after"), ("name", .string name), ("result", Outcome.toJson result)]
  | .settled .ack => [("ev", .string "ack")]
  | .settled (.nack requeue) => [("ev", .string "nack"), ("requeue", .bool requeue)]
  | .notified name message =>
    [("ev", .string "notified"), ("name", .string name), ("type", .string message.name),
      ("id", .string message.id)]
  | .stopped result => [("ev", .string "stopped"), ("result", Outcome.toJson result)]

namespace Entry

/-- The form of a line of the journal, with its time or without. -/
def toJson (timed : Bool) (e : Entry) : Json :=
  .object (e.what.fields ++ (if timed then [("t", .ofInt e.time)] else []) ++
    (if e.tag = 0 then [] else [("tag", .ofInt e.tag.toNat)]))

/-- Whether a line may stand before another one, each with its text: the earlier line goes first, of
two at one time the one of the lower tag, and lines without a tag by their texts. -/
def mayPrecede (a b : Entry × String) : Bool :=
  if a.1.time ≠ b.1.time then a.1.time < b.1.time
  else if a.1.tag ≠ b.1.tag then a.1.tag < b.1.tag
  else a.1.tag ≠ 0 || a.2 ≤ b.2

end Entry

namespace Scene

/-- The form of the journal, with times or without. -/
def journalToJson (timed : Bool) (s : Scene) : Json := .array (s.journal.map (Entry.toJson timed))

/-- The form of the journal in the order of times and tags. -/
def sortedJournalToJson (s : Scene) : Json :=
  let lines := s.journal.map fun e => (e, (e.toJson true).write)
  .array ((lines.mergeSort Entry.mayPrecede).map fun l => l.1.toJson true)

/-- The form of the spans that have ended. -/
def spansToJson (s : Scene) : Json := .array (s.recorder.ended.map Span.toJson)

/-- The form of the log. -/
def logsToJson (s : Scene) : Json := .array (s.logs.map LogRecord.toJson)

end Scene

end MessageBus
