import MessageBus.Duration

/-!
# Connection settings

Where the broker is, who connects to it, and what the connection does by itself; `Settings.uri` is
the address handed to the client.
-/

set_option autoImplicit false

namespace MessageBus

/-- The settings of one connection. -/
structure Settings where
  host : String := "localhost"
  port : UInt16 := 5672
  user : String := "guest"
  password : String := "guest"
  vhost : String := "/"
  /-- The name of the connection, and the application id of published messages. -/
  appName : String := "rabbitmq-bus"
  /-- Whether a lost connection is dialed again in the background. -/
  reconnecting : Bool := true
  /-- The pause between two failed dials. -/
  reconnectDelayMillis : UInt64 := 500
  /-- Whether consumers start as soon as the bus is connected. -/
  autoStart : Bool := true
  /-- Whether messages are published as persistent. -/
  persisted : Bool := true
deriving DecidableEq, Inhabited, Repr

namespace Settings

/-- The virtual host as a path: the root is `%2f`; elsewhere leading slashes are dropped and the
inner ones escaped. -/
def vhostPath (vhost : String) : String :=
  if vhost == "/" then "%2f"
  else
    String.ofList <| (vhost.toList.dropWhile (· == '/')).flatMap fun c =>
      if c == '/' then ['%', '2', 'f'] else [c]

/-- The address of the broker. -/
def uri (s : Settings) : String :=
  "amqp://" ++ s.user ++ ":" ++ s.password ++ "@" ++ s.host ++ ":" ++ toString s.port.toNat ++
    "/" ++ vhostPath s.vhost

/-- The pause between two failed dials. -/
def reconnectDelay (s : Settings) : Duration := .ofMillis s.reconnectDelayMillis.toNat

end Settings

end MessageBus
