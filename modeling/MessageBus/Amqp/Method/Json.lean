import MessageBus.Amqp.Method
import MessageBus.Topology.Json

/-!
# Methods as JSON

The forms of what a broker records. Every flag of a method is shown, also those that a client never
sets.
-/

set_option autoImplicit false

namespace MessageBus.Amqp

/-- How texts and times are shown that differ from run to run. -/
structure PropertyForms where
  text : String → Json
  time : UInt64 → Json

/-- The form of the properties of a message. -/
def Properties.toJson (forms : PropertyForms) (p : Properties) : Json :=
  .object [("content_type", forms.text p.contentType), ("content_encoding", .null),
    ("type", forms.text p.kind), ("message_id", forms.text p.messageId),
    ("correlation_id", forms.text p.correlationId), ("app_id", forms.text p.appId),
    ("delivery_mode", if p.persistent then .ofInt 2 else .null), ("priority", .null),
    ("expiration", .null), ("timestamp", forms.time p.timestamp),
    ("headers", (p.headers.map Table.toJson).getD .null)]

/-- The fields in the form of a method. -/
def Method.fields (forms : PropertyForms) : Method → List (String × Json)
  | startOk login name =>
    [("mechanism", .string login.mechanism.wireName), ("response", .ofBytes login.response),
      ("name", (Value.ofText name).toJson)]
  | openConnection vhost => [("vhost", .string vhost)]
  | closeConnection code text | closeChannel code text =>
    [("code", .ofInt code), ("text", .string text)]
  | openChannel => []
  | prefetch count => [("prefetch_count", .ofInt count.toNat), ("global", .bool false)]
  | declareExchange name e =>
    [("exchange", .string name), ("type", .string e.kind.wireName), ("passive", .bool e.passive),
      ("durable", .bool e.durable), ("auto_delete", .bool e.autoDelete),
      ("internal", .bool e.internal), ("nowait", .bool false),
      ("arguments", Table.toJson e.arguments)]
  | declareQueue name q =>
    [("queue", .string name), ("passive", .bool q.passive), ("durable", .bool q.durable),
      ("exclusive", .bool q.exclusive), ("auto_delete", .bool q.autoDelete),
      ("nowait", .bool false),
      ("arguments", Table.toJson q.arguments)]
  | bindQueue queue exchange routingKey arguments =>
    [("queue", .string queue), ("exchange", .string exchange), ("routing_key", .string routingKey),
      ("nowait", .bool false), ("arguments", Table.toJson arguments)]
  | consume queue tag noAck =>
    [("queue", .string queue), ("consumer_tag", .string tag), ("no_local", .bool false),
      ("no_ack", .bool noAck), ("exclusive", .bool false), ("nowait", .bool false),
      ("arguments", .object [])]
  | cancel tag => [("consumer_tag", .string tag)]
  | ack tag => [("tag", .ofInt tag.toNat), ("multiple", .bool false)]
  | nack tag requeue =>
    [("tag", .ofInt tag.toNat), ("multiple", .bool false), ("requeue", .bool requeue)]
  | publish exchange routingKey properties body =>
    [("exchange", .string exchange), ("routing_key", .string routingKey),
      ("mandatory", .bool false), ("immediate", .bool false),
      ("properties", properties.toJson forms), ("body", .ofBytes body)]

/-- The form of a recorded request; its channel goes by its number, counted from one. -/
def Frame.toJson (forms : PropertyForms) (f : Frame) : Json :=
  .object ([("m", .string f.method.wireName)] ++
    (f.channel.map fun c => ("ch", .string ("c" ++ toString (c + 1)))).toList ++
    f.method.fields forms)

end MessageBus.Amqp
