import MessageBus.BusError.Json
import MessageBus.Script

/-!
# Scripted collaborators as JSON

How handlers and behaviors are described.
-/

set_option autoImplicit false

namespace MessageBus

/-- A step of a script. -/
def ScriptStep.ofJson (j : Json) : ScriptStep where
  sleep := j.natAt? "sleep"
  cancels := j.flagAt "cancel" false
  error := (j.field? "err").map BusError.ofJson

/-- The script in a field. -/
def ScriptStep.listOfJson (j : Json) (key : String) : List ScriptStep :=
  (j.listAt key).map ScriptStep.ofJson

/-- The handler that a value describes; `counter` tells it from others of its name. -/
def ScriptedHandler.ofJson (counter : Nat) (j : Json) : ScriptedHandler where
  counter
  name := j.textAt "name"
  script := ScriptStep.listOfJson j "script"
  byTag := (j.fieldOrEmpty "by_tag").fields.map fun e =>
    ((e.1.toNat?.getD 0).toUInt64, e.2.items.map ScriptStep.ofJson)
  showsReceived := j.flagAt "dump" false
  showsContext := j.flagAt "dump_span" false

/-- The mode of a name; any other name stands for giving results on. -/
def BehaviorMode.ofName : String → BehaviorMode
  | "short_ok" => .shortOk
  | "short_err" => .shortError
  | "fresh_ctx" => .freshContext
  | "swallow" => .swallow
  | "fail_after" => .failAfter
  | "replace_err" => .replaceError
  | _ => .pass

/-- The behavior that a value describes. -/
def Behavior.ofJson (j : Json) : Behavior :=
  match j.textAt "kind" with
  | "otel" => Behavior.tracing
  | "logging" => Behavior.logging
  | _ =>
    ScriptedBehavior.behavior
      { name := j.textAt "name"
        mode := .ofName (j.textAt "mode")
        error := ((j.field? "err").map BusError.ofJson).getD .internal
        sleep := j.natAt? "sleep" }

end MessageBus
