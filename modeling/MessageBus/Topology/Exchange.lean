import MessageBus.Amqp.Value

/-!
# Exchanges

How an exchange is described before it is declared. A description is built up by small steps from
`Exchange.named`; a delayed exchange carries the kind it delays in the argument `x-delayed-type`.
-/

set_option autoImplicit false

namespace MessageBus

/-- How an exchange routes. -/
inductive ExchangeKind where
  | direct
  | fanout
  | topic
  | headers
  | delayed
deriving DecidableEq, Repr, Inhabited

/-- The name of a kind on the wire. -/
def ExchangeKind.wireName : ExchangeKind → String
  | .direct => "direct"
  | .fanout => "fanout"
  | .topic => "topic"
  | .headers => "headers"
  | .delayed => "x-delayed-message"

/-- The description of an exchange. An empty name stands for the one derived from the message
type. -/
structure Exchange where
  name : String
  kind : ExchangeKind := .direct
  autoDelete : Bool := false
  durable : Bool := false
  passive : Bool := false
  internal : Bool := false
  arguments : Amqp.Table := .empty
deriving Inhabited

namespace Exchange

/-- The argument that names the kind a delayed exchange delays. -/
def delayedTypeKey : String := "x-delayed-type"

/-- A direct exchange that is not durable. -/
def named (name : String) : Exchange := { name }

def withName (e : Exchange) (name : String) : Exchange := { e with name }

def ofKind (e : Exchange) (kind : ExchangeKind) : Exchange := { e with kind }

/-- Sets one argument of the declaration. -/
def withArgument (e : Exchange) (key : String) (value : Amqp.Value) : Exchange :=
  { e with arguments := e.arguments.insert key value }

/-- Makes the exchange a delayed one that routes as `kind` does. -/
def delaying (e : Exchange) (kind : ExchangeKind) : Exchange :=
  (e.ofKind .delayed).withArgument delayedTypeKey (.ofText kind.wireName)

/-- One step in the description of an exchange. -/
inductive Step where
  | kind (k : ExchangeKind)
  | directDelayed
  | topicDelayed
  | durable
  | autoDelete
  | passive
  | internal
  | argument (key : String) (value : Amqp.Value)
  | name (n : String)

/-- The description after one more step. -/
def apply (e : Exchange) : Step → Exchange
  | .kind k => e.ofKind k
  | .directDelayed => e.delaying .direct
  | .topicDelayed => e.delaying .topic
  | .durable => { e with durable := true }
  | .autoDelete => { e with autoDelete := true }
  | .passive => { e with passive := true }
  | .internal => { e with internal := true }
  | .argument key value => e.withArgument key value
  | .name n => e.withName n

/-- The description after some more steps, the first one first. -/
def applyAll (e : Exchange) (steps : List Step) : Exchange := steps.foldl apply e

end Exchange

end MessageBus
