import MessageBus.BusError
import MessageBus.Json.Access

/-!
# Errors as JSON

The form of an error is its kind and its text. Why a body is no message of its type is told in words
that nobody relies on; in forms they are concealed.
-/

set_option autoImplicit false

namespace MessageBus

/-- The text of an error with what follows the type of an unreadable body concealed. -/
def concealed (text : String) : String :=
  if text.startsWith "failure to deserialize payload: type `" then
    match text.splitOn "`: " with
    | start :: _ :: _ => start ++ "`: <detail>"
    | _ => text
  else text

namespace BusError

/-- The name of the kind of an error. -/
def kindName : BusError → String
  | internal => "InternalError"
  | connection _ => "ConnectionError"
  | channel _ => "ChannelError"
  | exchangeDeclaration _ => "DeclareExchangeError"
  | queueDeclaration _ => "DeclareQueueError"
  | binding _ _ => "BindingExchangeToQueueError"
  | prefetch _ => "QoSDeclarationError"
  | subscription _ => "ConsumerDeclarationError"
  | deserialization _ => "DeserializationError"
  | serialization _ => "SerializationError"
  | unregisteredType _ => "UnregisteredMessageType"
  | handler _ => "HandlerError"
  | handlerTimeout _ => "HandlerTimeout"
  | configuration _ => "ConfigurationError"
  | publishing _ => "PublishingError"
  | ack => "AckMessageError"
  | nack => "NackMessageError"

/-- The error that a value describes: a kind with its arguments, or the text of a handler's
error. -/
def ofJson (j : Json) : BusError :=
  let arguments := j.listAt "args"
  let a := (arguments.head?.map Json.text).getD ""
  let b := (arguments[1]?.map Json.text).getD ""
  match j, j.textAt "kind" with
  | .string s, _ => .handler s
  | _, "InternalError" => .internal
  | _, "ConnectionError" => .connection a
  | _, "ChannelError" => .channel a
  | _, "DeclareExchangeError" => .exchangeDeclaration a
  | _, "DeclareQueueError" => .queueDeclaration a
  | _, "BindingExchangeToQueueError" => .binding a b
  | _, "QoSDeclarationError" => .prefetch a
  | _, "ConsumerDeclarationError" => .subscription a
  | _, "DeserializationError" => .deserialization a
  | _, "SerializationError" => .serialization a
  | _, "UnregisteredMessageType" => .unregisteredType a
  | _, "HandlerTimeout" => .handlerTimeout ((arguments.head?.map Json.toNat).getD 0)
  | _, "ConfigurationError" => .configuration a
  | _, "PublishingError" => .publishing a
  | _, "AckMessageError" => .ack
  | _, "NackMessageError" => .nack
  | _, _ => .handler a

/-- The form of an error. -/
def toJson (e : BusError) : Json :=
  .object [("error", .string e.kindName), ("message", .string (concealed e.message))]

end BusError

/-- The form of an outcome. -/
def Outcome.toJson : Outcome → Json
  | .ok _ => .string "ok"
  | .error e => e.toJson

end MessageBus
