import MessageBus.Amqp.Value

/-!
# Queues and bindings

How a queue is described before it is declared, and the binding of a queue to an exchange. The
limits of a queue are sent as arguments and win over an argument of the same key.
-/

set_option autoImplicit false

namespace MessageBus

/-- The description of a queue. An empty name stands for the one derived from the message type. -/
structure Queue where
  name : String
  durable : Bool := false
  autoDelete : Bool := false
  exclusive : Bool := false
  passive : Bool := false
  ttl : Option Int32 := none
  maxLength : Option Int32 := none
  maxLengthBytes : Option Int32 := none
  deadLetterExchange : Option String := none
  deadLetterRoutingKey : Option String := none
  extra : Amqp.Table := .empty
deriving Inhabited

namespace Queue

/-- A queue that is neither durable nor exclusive. -/
def named (name : String) : Queue := { name }

def withName (q : Queue) (name : String) : Queue := { q with name }

/-- Sets one argument of the declaration. -/
def withArgument (q : Queue) (key : String) (value : Amqp.Value) : Queue :=
  { q with extra := q.extra.insert key value }

/-- The limits that are set, as arguments in the order in which they are written. -/
def limits (q : Queue) : List (String × Amqp.Value) :=
  [ ("x-message-ttl", q.ttl.map Amqp.Value.int32),
    ("x-max-length", q.maxLength.map Amqp.Value.int32),
    ("x-max-length-bytes", q.maxLengthBytes.map Amqp.Value.int32),
    ("x-dead-letter-exchange", q.deadLetterExchange.map Amqp.Value.ofText),
    ("x-dead-letter-routing-key", q.deadLetterRoutingKey.map Amqp.Value.ofText) ].filterMap
    fun e => e.2.map fun v => (e.1, v)

/-- The arguments sent with the declaration: the extra ones, with the limits set over them. -/
def arguments (q : Queue) : Amqp.Table := q.extra.insertAll q.limits

/-- One step in the description of a queue. -/
inductive Step where
  | durable
  | autoDelete
  | exclusive
  | passive
  | ttl (n : Int32)
  | maxLength (n : Int32)
  | maxLengthBytes (n : Int32)
  | deadLetterExchange (exchange : String)
  | deadLetterRoutingKey (key : String)
  | argument (key : String) (value : Amqp.Value)
  | name (n : String)

/-- The description after one more step. -/
def apply (q : Queue) : Step → Queue
  | .durable => { q with durable := true }
  | .autoDelete => { q with autoDelete := true }
  | .exclusive => { q with exclusive := true }
  | .passive => { q with passive := true }
  | .ttl n => { q with ttl := some n }
  | .maxLength n => { q with maxLength := some n }
  | .maxLengthBytes n => { q with maxLengthBytes := some n }
  | .deadLetterExchange exchange => { q with deadLetterExchange := some exchange }
  | .deadLetterRoutingKey key => { q with deadLetterRoutingKey := some key }
  | .argument key value => q.withArgument key value
  | .name n => q.withName n

/-- The description after some more steps, the first one first. -/
def applyAll (q : Queue) (steps : List Step) : Queue := steps.foldl apply q

end Queue

/-- The binding of a queue to an exchange. An empty routing key stands for the one derived from the
message type. -/
structure Binding where
  routingKey : String
  arguments : Amqp.Table := .empty
deriving Inhabited

namespace Binding

def withRoutingKey (b : Binding) (routingKey : String) : Binding := { b with routingKey }

/-- Sets one argument of the binding. -/
def withArgument (b : Binding) (key : String) (value : Amqp.Value) : Binding :=
  { b with arguments := b.arguments.insert key value }

end Binding

end MessageBus
