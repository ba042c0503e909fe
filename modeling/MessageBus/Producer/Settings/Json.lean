import MessageBus.BusError.Json
import MessageBus.Producer.Settings
import MessageBus.Topology.Json

/-!
# Producer settings as JSON

Settings are described by the type they start from and the steps that build them up.
-/

set_option autoImplicit false

namespace MessageBus.ProducerSettings

/-- The settings after one step of a description. -/
def applyJson (s : ProducerSettings) (j : Json) : ProducerSettings :=
  let a := j.item 1
  match (j.item 0).text with
  | "with_exchange" => { s with exchange := .ofJson a }
  | "with_routing_key" => { s with routingKey := a.text }
  | "with_persisted" => { s with persisted := a.isTrue }
  | _ => s

/-- The settings that a value describes. -/
def ofJson (j : Json) : ProducerSettings :=
  (j.listAt "ops").foldl applyJson (.ofMessageType ((j.textAt? "new").getD (j.textAt "for")))

/-- The form of settings that were checked against a registry. -/
def toJson (s : ProducerSettings) (r : Registry) : Json :=
  .object [("message_type", .string s.messageType), ("exchange", s.exchange.toJson),
    ("routing_key", .string s.routingKey), ("persisted", .bool s.persisted),
    ("valid", Outcome.toJson (s.check r))]

end MessageBus.ProducerSettings
