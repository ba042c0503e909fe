import MessageBus.Consumer.Pool

/-!
# Working outside of a bus

A `Bench` is a scene with a crew that belongs to no bus: a processor that is handed deliveries one
by one or side by side, or a pool on a stream that is fed at given times. What happens on a bench is
settled by the steps or events alone.
-/

set_option autoImplicit false

namespace MessageBus

/-- A crew that belongs to no bus, in a scene. -/
structure Bench where
  scene : Scene
  crew : Crew
  /-- When each dismissal of the pool began. -/
  dismissals : List Nat := []
deriving Inhabited

namespace Bench

/-- A bound on the steps and waits of one run; runs that end need far fewer. -/
def enough : Nat := 1000000

/-- The bench with its processor changed. -/
def modifyProcessor (b : Bench) (f : Processor → Processor) : Bench :=
  { b with crew := { b.crew with processor := f b.crew.processor } }

/-- The bench with its pool changed. -/
def modifyPool (b : Bench) (f : Pool → Pool) : Bench := { b with crew := b.crew.modifyPool 0 f }

/-- Lets the clock run to a time. -/
def runUntil (b : Bench) (time : Nat) : Bench :=
  let (scene, crew) := b.crew.runUntil enough time b.scene
  { b with scene, crew }

/-- Lets the clock run until something holds, or nothing is under way. -/
def runWhile (b : Bench) (p : Scene → Crew → Bool) : Bench :=
  let (scene, crew) := b.crew.runWhile p enough b.scene
  { b with scene, crew }

/-! ## A processor, step by step -/

/-- What is done with a processor. -/
inductive Step where
  /-- It is handed a delivery. -/
  | deliver (delivery : Delivery) (acknowledger : Acknowledger)
  /-- It is handed deliveries side by side, each after a time of its own. -/
  | deliverAll (deliveries : List (Nat × Delivery × Acknowledger))
  /-- It is handed a delivery whose body has been read, with somebody to settle it or not. -/
  | handle (received : Received) (acknowledger : Option Acknowledger)
  /-- It runs one handler. -/
  | runHandler (received : Received) (handler : Handler)
  | connectHandler (handler : Handler)
  | observe (name : String)
  /-- The token is cancelled. -/
  | cancel
  /-- The token will be cancelled so many milliseconds from now. -/
  | cancelAfter (millis : Nat)
  /-- Another token takes the place of the token. -/
  | freshToken

/-- What a step answers. -/
inductive Answer where
  | nothing
  | outcome (result : Outcome)
  /-- For each delivery its outcome and the time of its end. -/
  | outcomes (results : List (Option (Outcome × Nat)))

/-- Someone who settles nothing. -/
def nobody : Acknowledger := .scripted 0 none none

/-- Does a task. -/
def run (b : Bench) (a : Acknowledger) (t : Task Outcome) : Answer × Bench :=
  let (result, scene) := t.run ⟨a, b.scene.current, b.crew.processor.observers⟩ b.scene
  (.outcome result, { b with scene })

/-- Hands over a delivery at a time, with its place among those handed over side by side; the
numbers of the jobs are kept beside the places. -/
def hand (state : Bench × List (Nat × Nat)) (e : Nat × Nat × Delivery × Acknowledger) :
    Bench × List (Nat × Nat) :=
  let (time, place, delivery, acknowledger) := e
  let b := state.1.runUntil time
  let (processor, job) := b.crew.processor.request delivery acknowledger b.scene.current
  ({ b with crew := { b.crew with processor } }, (place, job) :: state.2)

/-- Hands over deliveries, each after a rest of its own, and waits for all of them. -/
def deliverAll (b : Bench) (ds : List (Nat × Delivery × Acknowledger)) : Answer × Bench :=
  let timed := ds.zipIdx.map fun (d, place) => (b.scene.now + b.scene.timer d.1, place, d.2)
  let (b, jobs) := (timed.mergeSort fun x y => x.1 ≤ y.1).foldl hand (b, [])
  let b := b.runWhile fun _ _ => true
  (.outcomes ((List.range ds.length).map fun place =>
    (jobs.lookup place).bind b.crew.processor.result?), b)

/-- Takes a step. -/
def perform (b : Bench) : Step → Answer × Bench
  | .deliver d a =>
    let p := b.crew.processor
    b.run a (p.settings.process p.registry p.names p.handlers d)
  | .deliverAll ds => b.deliverAll ds
  | .handle r a =>
    let p := b.crew.processor
    b.run (a.getD nobody) (p.settings.handle p.handlers a.isSome none r)
  | .runHandler r h => b.run nobody (b.crew.processor.settings.runHandler none r h)
  | .connectHandler h => (.nothing, b.modifyProcessor (·.connectHandler h))
  | .observe name => (.nothing, b.modifyProcessor (·.addObserver name))
  | .cancel => (.nothing, { b with scene := b.scene.cancel b.scene.current })
  | .cancelAfter ms =>
    (.nothing, { b with scene := b.scene.cancelAfter b.scene.current ms })
  | .freshToken =>
    let (scene, current) := b.scene.makeToken none
    (.nothing, { b with scene := { scene with current } })

/-- The bench with nothing to report. -/
def reported (b : Bench) : Bench := { b with scene := b.scene.reported }

/-! ## A pool on a stream -/

/-- What happens to a pool. -/
inductive Event where
  /-- Something comes on the stream. -/
  | arrive (item : StreamItem)
  /-- The stream ends. -/
  | endStream
  /-- News of so many closed channels. -/
  | channelsClosed (times : Nat)
  /-- There will be no more such news. -/
  | deafen
  /-- The token above the token of the pool is cancelled. -/
  | cancel
  /-- The workers are sent away. -/
  | dismiss
  | connectHandler (handler : Handler)
  | observe (name : String)

/-- A pool of so many workers, on a stream on which nothing has come. -/
def ofPool (s : Scene) (processor : Processor) (workers : Nat) : Bench :=
  let (scene, pool) := Pool.spawn s s.current workers
  { scene, crew := { processor, pools := [pool] } }

/-- The bench after an event. -/
def meet (b : Bench) : Event → Bench
  | .arrive item => b.modifyPool (·.push item)
  | .endStream => b.modifyPool Pool.endStream
  | .channelsClosed n => n.repeat (·.modifyPool Pool.channelClosed) b
  | .deafen => b.modifyPool Pool.deafen
  | .cancel => { b with scene := b.scene.cancel b.scene.current }
  | .dismiss =>
    { b with
      scene := b.crew.dismiss b.scene 0
      dismissals := b.dismissals ++ [b.scene.now] }
  | .connectHandler h => b.modifyProcessor (·.connectHandler h)
  | .observe name => b.modifyProcessor (·.addObserver name)

/-- The bench after an event at its time; an event without a time happens at once. -/
def meetAt (b : Bench) (e : Option Nat × Event) : Bench :=
  (match e.1 with
    | some time => b.runUntil time
    | none => b).meet e.2

/-- Whether the pool has workers left. -/
def isStaffed (_ : Scene) (c : Crew) : Bool := !c.isDrained 0

/-- Meets the events, lets the clock run to a time, waits for the dismissals and sends the workers
away for good. -/
def workThrough (b : Bench) (events : List (Option Nat × Event)) (time : Option Nat) : Bench :=
  let b := events.foldl meetAt b
  let b := match time with
    | some time => b.runUntil time
    | none => b
  let b := if b.dismissals.isEmpty then b else b.runWhile isStaffed
  { b with scene := b.crew.dismiss b.scene 0 }.runWhile isStaffed

/-- When each dismissal was over: once all workers were gone. -/
def dismissalEnds (b : Bench) : List Nat :=
  b.dismissals.map fun start => max start (((b.crew.pools[0]?).bind Pool.drainedSince?).getD 0)

end Bench

end MessageBus
