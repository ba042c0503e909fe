import MessageBus.Json.Access
import MessageBus.Json.Reader
import MessageBus.Message.Shape
import MessageBus.Settings

/-!
# Settings from JSON

Settings are read like a record all of whose fields may be missing: from an object, or from an array
that gives the first fields in order. Their form shows the fields, the address and the pause between
two failed dials.
-/

set_option autoImplicit false

namespace MessageBus.Settings

/-- The fields in the order in which an array gives them. -/
def recordShape : RecordShape :=
  [("host", .text), ("port", .integer 0 (UInt16.size - 1)), ("user", .text), ("password", .text),
    ("vhost", .text), ("app_name", .text), ("reconnecting", .flag),
    ("reconnect_delay_ms", .integer 0 (UInt64.size - 1)), ("auto_start", .flag),
    ("persisted", .flag)]

/-- Settings with one field set. -/
def set (s : Settings) (field : String) (value : Datum) : Settings :=
  match field, value with
  | "host", .text v => { s with host := v }
  | "port", .integer v => { s with port := v.toNat.toUInt16 }
  | "user", .text v => { s with user := v }
  | "password", .text v => { s with password := v }
  | "vhost", .text v => { s with vhost := v }
  | "app_name", .text v => { s with appName := v }
  | "reconnecting", .flag v => { s with reconnecting := v }
  | "reconnect_delay_ms", .integer v => { s with reconnectDelayMillis := v.toNat.toUInt64 }
  | "auto_start", .flag v => { s with autoStart := v }
  | "persisted", .flag v => { s with persisted := v }
  | _, _ => s

/-- Sets the fields that are given one after the other. -/
def setAll (s : Settings) (given : List (String × Shape × Json)) : Option Settings :=
  given.foldlM (fun s e => (RecordShape.decodeLevel [] none e.2.1 e.2.2).map (s.set e.1)) s

/-- A field of an object: missing, or given once. -/
def givenField (fields : List (String × Json)) (f : String × Shape) :
    Option (Option (String × Shape × Json)) :=
  match fields.filter (·.1 == f.1) with
  | [] => some none
  | [e] => some (some (f.1, f.2, e.2))
  | _ => none

/-- The fields an object gives; a field given twice is an error, and other keys are passed over. -/
def givenFields (fields : List (String × Json)) : Option (List (String × Shape × Json)) := do
  return (← recordShape.mapM (givenField fields)).filterMap (fun e => e)

/-- The settings of a JSON value. -/
def ofJson? : Json → Option Settings
  | .object fields => (givenFields fields).bind (setAll {})
  | .array items =>
    if items.length ≤ recordShape.length then
      setAll {} ((recordShape.zip items).map fun e => (e.1.1, e.1.2, e.2))
    else none
  | _ => none

/-- The settings that some bytes spell. -/
def read? (bs : Bytes) : Option Settings := (Json.read? bs).bind ofJson?

/-- The form of settings. -/
def toJson (s : Settings) : Json :=
  .object [("host", .string s.host), ("port", .ofInt s.port.toNat), ("user", .string s.user),
    ("password", .string s.password), ("vhost", .string s.vhost), ("app_name", .string s.appName),
    ("reconnecting", .bool s.reconnecting),
    ("reconnect_delay_ms", .digits s.reconnectDelayMillis.toNat), ("auto_start", .bool s.autoStart),
    ("persisted", .bool s.persisted), ("uri", .string s.uri),
    ("reconnect_delay", s.reconnectDelay.toJson)]

end MessageBus.Settings
