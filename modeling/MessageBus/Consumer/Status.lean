/-!
# The life of a consumer

The stages a consumer goes through, and the codes they are kept under.
-/

set_option autoImplicit false

namespace MessageBus

/-- A stage in the life of a consumer. -/
inductive ConsumerStatus where
  | idle
  | starting
  | running
  | resubscribing
  | stopping
  | stopped
deriving DecidableEq, Inhabited, Repr

namespace ConsumerStatus

/-- The name of a stage. -/
def label : ConsumerStatus → String
  | idle => "Idle"
  | starting => "Starting"
  | running => "Running"
  | resubscribing => "Resubscribing"
  | stopping => "Stopping"
  | stopped => "Stopped"

/-- The code of a stage. -/
def code : ConsumerStatus → UInt8
  | idle => 0
  | starting => 1
  | running => 2
  | resubscribing => 3
  | stopping => 4
  | stopped => 5

/-- The stage of a code; codes of no stage stand for `idle`. -/
def ofCode (n : UInt8) : ConsumerStatus :=
  if n = 1 then starting
  else if n = 2 then running
  else if n = 3 then resubscribing
  else if n = 4 then stopping
  else if n = 5 then stopped
  else idle

/-- Whether a stop has begun and no start after it. -/
def isStopping : ConsumerStatus → Bool
  | stopping | stopped => true
  | _ => false

/-- Whether a subscription may be rebuilt now. -/
def admitsRebuild : ConsumerStatus → Bool
  | idle | running | resubscribing => true
  | _ => false

end ConsumerStatus

end MessageBus
