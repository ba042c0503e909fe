import MessageBus.Amqp.Value.Json
import MessageBus.Topology.Names

/-!
# Topologies as JSON

Exchanges, queues and bindings are described by a name and the steps that build them up; their forms
show what the steps have led to.
-/

set_option autoImplicit false

namespace MessageBus

namespace ExchangeKind

/-- The name under which a description knows a kind. -/
def label : ExchangeKind → String
  | direct => "Direct"
  | fanout => "Fanout"
  | topic => "Topic"
  | headers => "Headers"
  | delayed => "XMessageDelayed"

/-- The kind of a name; a name of no kind stands for the usual one. -/
def ofLabel (s : String) : ExchangeKind :=
  ([direct, fanout, topic, headers, delayed].find? (·.label == s)).getD direct

end ExchangeKind

namespace Exchange

/-- A step in a description. -/
def Step.ofJson (j : Json) : Step :=
  let a := j.item 1
  match (j.item 0).text with
  | "direct" => .kind .direct
  | "fanout" => .kind .fanout
  | "topic" => .kind .topic
  | "direct_delayed" => .directDelayed
  | "topic_delayed" => .topicDelayed
  | "durable" => .durable
  | "delete" => .autoDelete
  | "passive" => .passive
  | "internal" => .internal
  | "kind" => .kind (.ofLabel a.text)
  | "param" => .argument a.text (Amqp.Value.ofJson (j.item 2))
  | _ => .name a.text

/-- The steps of a description. -/
def stepsOfJson (j : Json) : List Step := (j.listAt "ops").map Step.ofJson

/-- The exchange before the first step of a description. -/
def startOfJson (j : Json) : Exchange := .named (j.textAt "name")

/-- The exchange that a value describes. -/
def ofJson (j : Json) : Exchange := (startOfJson j).applyAll (stepsOfJson j)

/-- The form of an exchange. -/
def toJson (e : Exchange) : Json :=
  .object [("name", .string e.name), ("kind", .string e.kind.label),
    ("amqp_kind", .string e.kind.wireName), ("delete", .bool e.autoDelete),
    ("durable", .bool e.durable), ("passive", .bool e.passive), ("internal", .bool e.internal),
    ("params", Amqp.Table.toJson e.arguments)]

end Exchange

namespace Queue

/-- A step in a description. -/
def Step.ofJson (j : Json) : Step :=
  let a := j.item 1
  let n := a.toInt.toInt32
  match (j.item 0).text with
  | "durable" => .durable
  | "delete" => .autoDelete
  | "exclusive" => .exclusive
  | "passive" => .passive
  | "ttl" => .ttl n
  | "max_length" => .maxLength n
  | "max_length_bytes" => .maxLengthBytes n
  | "dead_letter_exchange" => .deadLetterExchange a.text
  | "dead_letter_routing_key" => .deadLetterRoutingKey a.text
  | "param" => .argument a.text (Amqp.Value.ofJson (j.item 2))
  | _ => .name a.text

/-- The steps of a description. -/
def stepsOfJson (j : Json) : List Step := (j.listAt "ops").map Step.ofJson

/-- The queue before the first step of a description. -/
def startOfJson (j : Json) : Queue := .named (j.textAt "name")

/-- The queue that a value describes. -/
def ofJson (j : Json) : Queue := (startOfJson j).applyAll (stepsOfJson j)

/-- The form of a queue. -/
def toJson (q : Queue) : Json :=
  .object [("name", .string q.name), ("durable", .bool q.durable), ("delete", .bool q.autoDelete),
    ("exclusive", .bool q.exclusive), ("passive", .bool q.passive),
    ("params", Amqp.Table.toJson q.extra), ("arguments", Amqp.Table.toJson q.arguments)]

end Queue

namespace Binding

/-- The binding after one step of a description. -/
def applyJson (b : Binding) (j : Json) : Binding :=
  let a := (j.item 1).text
  match (j.item 0).text with
  | "param" => b.withArgument a (Amqp.Value.ofJson (j.item 2))
  | _ => b.withRoutingKey a

/-- The binding before the first step of a description. -/
def startOfJson (j : Json) : Binding := { routingKey := j.textAt "routing_key" }

/-- The binding that a value describes. -/
def ofJson (j : Json) : Binding := (j.listAt "ops").foldl applyJson (startOfJson j)

/-- The form of a binding. -/
def toJson (b : Binding) : Json :=
  .object [("routing_key", .string b.routingKey), ("params", Amqp.Table.toJson b.arguments)]

end Binding

/-- The form of resolved names. -/
def TopologyNames.toJson (n : TopologyNames) : Json :=
  .object [("exchange", .string n.exchange), ("queue", .string n.queue),
    ("routing_key", .string n.routingKey)]

end MessageBus
