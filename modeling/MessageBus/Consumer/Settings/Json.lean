import MessageBus.Consumer.Settings
import MessageBus.Script.Json
import MessageBus.Topology.Json

/-!
# Consumer settings as JSON

Settings are described by the type or the names they start from and the steps that build them up.
-/

set_option autoImplicit false

namespace MessageBus

/-- The retry policy that a value describes: one of the two with a name, or attempts and a delay. -/
def RetryPolicy.ofJson (j : Json) : RetryPolicy :=
  match j.textAt? "policy" with
  | some "default" => .standard
  | some "no_retry" => .once
  | _ =>
    .ofAttempts ((j.natAt? "attempts").getD 0).toUInt32 (.ofJson ((j.field? "delay").getD .null))

namespace Undecodable

/-- The name of a policy. -/
def label : Undecodable → String
  | reject => "Reject"
  | ack => "Ack"
  | ignore => "Ignore"

/-- The policy of a name; a name of no policy stands for the usual one. -/
def ofLabel (s : String) : Undecodable := ([reject, ack, ignore].find? (·.label == s)).getD reject

end Undecodable

namespace ConsumerSettings

/-- The settings after one step of a description. Handlers are counted from `counters` on. -/
def applyJson (counters : Nat) (s : ConsumerSettings) (j : Json) : ConsumerSettings :=
  let a := j.item 1
  match (j.item 0).text with
  | "with_name" => { s with name := a.text }
  | "with_exchange" => { s with exchange := .ofJson a }
  | "with_queue" => { s with queue := .ofJson a }
  | "with_binding" => { s with binding := .ofJson a }
  | "with_concurrency_limit" => { s with concurrencyLimit := a.toNat.toUInt64 }
  | "with_prefetch_count" => { s with prefetchCount := a.toNat.toUInt16 }
  | "with_auto_ack" => { s with autoAck := a.isTrue }
  | "with_retry" => { s with retry := .ofAttempts a.toNat.toUInt32 (.ofJson (j.item 2)) }
  | "no_retry" => { s with retry := .once }
  | "with_handler_timeout" => { s with handlerTimeout := some (.ofJson a) }
  | "without_handler_timeout" => { s with handlerTimeout := none }
  | "with_failure" => { s with undecodable := .ofLabel a.text }
  | "with_pipeline" => { s with behaviors := s.behaviors ++ [Behavior.ofJson a] }
  | "with_handler" =>
    let scripted := ScriptedHandler.ofJson (counters + s.handlers.length) a
    { s with handlers := s.handlers ++ [scripted.handler] }
  | _ => s

/-- The settings that a value describes. Handlers are counted from `counters` on. -/
def ofJson (counters : Nat) (j : Json) : ConsumerSettings :=
  let start : ConsumerSettings :=
    match j.field? "new" with
    | some pair => { name := (pair.item 0).text, messageType := (pair.item 1).text }
    | none => .ofMessageType (j.textAt "for")
  (j.listAt "ops").foldl (applyJson counters) start

/-- The settings of several consumers; each has a thousand counters of its own. -/
def listOfJson (js : List Json) : List ConsumerSettings :=
  js.zipIdx.map fun (j, i) => ofJson (1000 * (i + 1)) j

/-- The form of settings that were checked against a registry. -/
def toJson (s : ConsumerSettings) (r : Registry) : Json :=
  .object [("name", .string s.name), ("message_type", .string s.messageType),
    ("exchange", s.exchange.toJson), ("queue", s.queue.toJson), ("binding", s.binding.toJson),
    ("concurrency_limit", .digits s.concurrencyLimit.toNat),
    ("prefetch_count", .ofInt s.prefetchCount.toNat), ("prefetch", .ofInt s.prefetch.toNat),
    ("auto_ack", .bool s.autoAck), ("retry_attempts", .ofInt s.retry.attempts),
    ("retry_delay", (s.retry.delayAfter 1).toJson),
    ("handler_timeout", (s.handlerTimeout.map Duration.toJson).getD .null),
    ("deserialization_failure", .string s.undecodable.label),
    ("pipelines", .ofInt s.behaviors.length), ("handlers", .ofInt s.handlers.length),
    ("valid", Outcome.toJson (s.check r))]

end ConsumerSettings

end MessageBus
