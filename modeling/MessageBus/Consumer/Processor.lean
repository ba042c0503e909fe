import MessageBus.Consumer.Processing
import MessageBus.Task.Run

/-!
# Processors

A processor handles the deliveries of one consumer. It has as many permits as the settings allow
deliveries to be handled at once, and at least one. Each delivery handed to it is a job: it waits
for a permit, in the order in which the jobs came, begins with the handlers that are there then,
runs, and gives the permit back when it ends, however it ends.
-/

set_option autoImplicit false

namespace MessageBus

/-- How far a job has come. -/
inductive JobPhase where
  /-- It has no permit yet. -/
  | waiting
  /-- It has had a permit since a time, and has not begun. -/
  | admitted (since : Nat)
  /-- It has had a permit since a time. -/
  | running (since : Nat) (work : Parked Outcome)
  /-- It had a permit from one time to another. -/
  | ended (since finish : Nat) (result : Outcome)

/-- A delivery on its way through a processor. -/
structure Job where
  delivery : Delivery
  acknowledger : Acknowledger
  /-- The token whose cancellation cuts its waits short. -/
  token : Token
  phase : JobPhase := .waiting

namespace Job

/-- Whether a job has no permit yet. -/
def isWaiting (j : Job) : Bool :=
  match j.phase with
  | .waiting => true
  | _ => false

/-- Whether a job has a permit. -/
def isRunning (j : Job) : Bool :=
  match j.phase with
  | .admitted _ | .running _ _ => true
  | _ => false

/-- The result of a job that is over, with the time of its end. -/
def result? (j : Job) : Option (Outcome × Nat) :=
  match j.phase with
  | .ended _ finish result => some (result, finish)
  | _ => none

/-- The time at which a job goes on. -/
def wakeTime? (s : Scene) (j : Job) : Option Nat :=
  match j.phase with
  | .admitted since => some since
  | .running _ work => work.wakeTime? s
  | _ => none

/-- What a job knows of its place. -/
def situation (observers : List String) (j : Job) : Situation :=
  ⟨j.acknowledger, j.token, observers⟩

/-- A job that gets its permit at a time. -/
def admitted (j : Job) (time : Nat) : Job := { j with phase := .admitted time }

/-- A job that has run up to its next wait. -/
def settled (j : Job) (since : Nat) (work : Parked Outcome) (s : Scene) : Job :=
  match work with
  | .ended result => { j with phase := .ended since s.now result }
  | work => { j with phase := .running since work }

end Job

/-- The processor of one consumer. -/
structure Processor where
  settings : ConsumerSettings
  registry : Registry
  names : TopologyNames
  /-- The handlers of the settings, and after them those that came later. -/
  handlers : List Handler
  /-- Who is told of handled messages. -/
  observers : List String := []
  /-- Every delivery handed over so far, in order. -/
  jobs : List Job := []
  /-- The permits that no job has. -/
  free : Nat
deriving Inhabited

namespace Processor

/-- The processor of some settings. -/
def ofSettings (settings : ConsumerSettings) (registry : Registry) (observers : List String) :
    Processor where
  settings
  registry
  names := settings.names
  handlers := settings.handlers
  observers
  free := settings.permits

/-- The processor of some settings, if there can be enough permits for it. -/
def ofSettings? (settings : ConsumerSettings) (registry : Registry) (observers : List String) :
    Option Processor :=
  if settings.hasPermits then some (ofSettings settings registry observers) else none

/-- Adds a handler behind the others. -/
def connectHandler (p : Processor) (h : Handler) : Processor :=
  { p with handlers := p.handlers ++ [h] }

/-- Adds an observer behind the others. -/
def addObserver (p : Processor) (name : String) : Processor :=
  { p with observers := p.observers ++ [name] }

/-- How many deliveries may be handled at once. -/
def permits (p : Processor) : Nat := p.settings.permits

/-- How many deliveries are being handled. -/
def inFlight (p : Processor) : Nat := p.jobs.countP Job.isRunning

/-- Hands a delivery over; its job has the number of the jobs before it. -/
def request (p : Processor) (delivery : Delivery) (acknowledger : Acknowledger) (token : Token) :
    Processor × Nat :=
  ({ p with jobs := p.jobs ++ [{ delivery, acknowledger, token }] }, p.jobs.length)

/-- The work of a job, with the handlers that are there now. -/
def work (p : Processor) (j : Job) : Task Outcome :=
  p.settings.process p.registry p.names p.handlers j.delivery

/-- The first job without a permit, if there is a permit for it. -/
def next? (p : Processor) : Option Nat :=
  if p.free = 0 then none else p.jobs.findIdx? Job.isWaiting

/-- The processor without one of its free permits. -/
def acquire (p : Processor) : Processor := { p with free := p.free - 1 }

/-- The processor once a job that has a permit has run up to its next wait: a job that is over gives
its permit back. -/
def advanced (p : Processor) (i : Nat) (j : Job) : Processor :=
  { p with
    jobs := p.jobs.set i j
    free := if j.isRunning then p.free else p.free + 1 }

/-- Gives the next job its permit. -/
def grant? (s : Scene) (p : Processor) : Option (Scene × Processor) := do
  let i ← p.next?
  let j ← p.jobs[i]?
  return (s, p.acquire.advanced i (j.admitted s.now))

/-- What a job does next, with the time since which it has had its permit: it begins, with the
handlers that are there now, or its wait is over. -/
def due? (s : Scene) (p : Processor) (j : Job) : Option (Nat × Task Outcome) :=
  match j.phase with
  | .admitted since => some (since, p.work j)
  | .running since work => (work.wake? s).map (since, ·)
  | _ => none

/-- Lets a job that can go on do so up to its next wait. -/
def resume? (s : Scene) (p : Processor) (i : Nat) : Option (Scene × Processor) := do
  let j ← p.jobs[i]?
  let (since, rest) ← p.due? s j
  let (work, s') := rest.advance (j.situation p.observers) s
  return (s', p.advanced i (j.settled since work s'))

/-- The result of a job that is over, with the time of its end. -/
def result? (p : Processor) (i : Nat) : Option (Outcome × Nat) := (p.jobs[i]?).bind Job.result?

/-- Whether the job is over. -/
def isOver (p : Processor) (i : Nat) : Bool := (p.result? i).isSome

/-- The time at which the first of the waits under way ends. -/
def wakeTime? (s : Scene) (p : Processor) : Option Nat :=
  p.jobs.foldl (fun time j => earlier time (j.wakeTime? s)) none

end Processor

end MessageBus
