import MessageBus.BusError
import MessageBus.Decimal.Unsigned
import MessageBus.Settings
import MessageBus.Text.Utf8

/-!
# Settings from the environment

The defaults overlaid with environment variables. A variable whose value is not text counts as
unset; a number or flag that cannot be read is an error that names the variable.
-/

set_option autoImplicit false

namespace MessageBus.Settings

/-- The value of a flag. -/
def parseFlag (s : String) : Option Bool :=
  if s == "true" then some true else if s == "false" then some false else none

/-- An environment: the bytes of the variables that are set. -/
abbrev Environment := List (String × Bytes)

/-- The text of a variable; a value that is not text counts as unset. -/
def textOf? (env : Environment) (key : String) : Option String :=
  (env.lookup key).bind Utf8.decode?

/-- A variable read by `parse`, or `default` where it is unset. -/
def readVariable {α : Type} (env : Environment) (key : String) (parse : String → Option α)
    (default : α) : Except BusError α :=
  match textOf? env key with
  | none => .ok default
  | some raw =>
    match parse raw with
    | some a => .ok a
    | none => .error (.configuration s!"invalid value for {key}: {raw}")

/-- The default settings overlaid with an environment; the first variable that cannot be read is
the error. -/
def ofEnvironment (env : Environment) : Except BusError Settings := do
  let d : Settings := {}
  let host := (textOf? env "RABBITMQ_HOST").getD d.host
  let port ← readVariable env "RABBITMQ_PORT"
    (fun s => (Decimal.unsigned? (UInt16.size - 1) s).map Nat.toUInt16) d.port
  let user := (textOf? env "RABBITMQ_USER").getD d.user
  let password := (textOf? env "RABBITMQ_PASSWORD").getD d.password
  let vhost := (textOf? env "RABBITMQ_VHOST").getD d.vhost
  let reconnecting ← readVariable env "RABBITMQ_RECONNECTING" parseFlag d.reconnecting
  let reconnectDelayMillis ← readVariable env "RABBITMQ_RECONNECT_DELAY_MS"
    (fun s => (Decimal.unsigned? (UInt64.size - 1) s).map Nat.toUInt64) d.reconnectDelayMillis
  let appName := (textOf? env "APP_NAME").getD d.appName
  return { d with host, port, user, password, vhost, reconnecting, reconnectDelayMillis, appName }

end MessageBus.Settings
