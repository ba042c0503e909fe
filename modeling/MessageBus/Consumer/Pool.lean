import MessageBus.Backlog
import MessageBus.Consumer.Processor

/-!
# Worker pools

A pool is a fixed number of workers that share one stream of deliveries. An idle worker takes what
comes next on the stream and hands it to the processor, and it is idle again once that job is over.
Faults of the stream and news of closed channels are passed over. A worker leaves when it is idle
and the token of its pool is cancelled, or when the stream has ended; so a pool that has no workers
left has no job under way.

`Crew.step` is one step of the processor or of one worker; which step is taken is a label, so the
runs of a crew are the lists of labels.
-/

set_option autoImplicit false

namespace MessageBus

/-- What comes on a stream of deliveries. -/
inductive StreamItem where
  | delivery (delivery : Delivery) (acknowledger : Acknowledger)
  | fault

/-- What a worker does. -/
inductive WorkerPhase where
  | idle
  /-- It waits for the end of a job. -/
  | busy (job : Nat)
  /-- It is gone since a time. -/
  | gone (since : Nat)
deriving DecidableEq, Inhabited, Repr

/-- One worker of a pool. -/
structure Worker where
  phase : WorkerPhase := .idle
  /-- The news of closed channels it has not read. -/
  closures : Backlog := {}
  /-- Whether there can be more such news. -/
  listening : Bool := true
deriving DecidableEq, Inhabited, Repr

/-- Whether a worker is gone. -/
def Worker.isGone (w : Worker) : Bool :=
  match w.phase with
  | .gone _ => true
  | _ => false

/-- The workers of one stream. -/
structure Pool where
  /-- Cancelled to send the workers away. -/
  token : Token
  /-- What has come on the stream and is not taken. -/
  stream : List StreamItem := []
  /-- Whether more can come. -/
  streaming : Bool := true
  /-- Whether the sender of news about channels is gone. -/
  deaf : Bool := false
  workers : Array Worker
deriving Inhabited

namespace Pool

/-- A pool of so many workers, on a token of its own below `parent`. -/
def spawn (s : Scene) (parent : Token) (workers : Nat) : Scene × Pool :=
  let (s, token) := s.makeToken (some parent)
  (s, { token, workers := Array.replicate workers {} })

/-- Whether all workers are gone. -/
def isDrained (p : Pool) : Bool := p.workers.all (·.isGone)

/-- The time since which all workers are gone. -/
def drainedSince? (p : Pool) : Option Nat :=
  if p.isDrained then
    some (p.workers.foldl (fun time w => match w.phase with
      | .gone since => max time since
      | _ => time) 0)
  else none

/-- Something comes on the stream. What comes after the end is lost. -/
def push (p : Pool) (item : StreamItem) : Pool :=
  if p.streaming then { p with stream := p.stream ++ [item] } else p

/-- The stream ends behind what is on it. -/
def endStream (p : Pool) : Pool := { p with streaming := false }

/-- Every worker hears of a closed channel. -/
def channelClosed (p : Pool) : Pool :=
  if p.deaf then p
  else
    { p with workers := p.workers.map fun w => { w with closures := w.closures.push } }

/-- There will be no more news of channels. -/
def deafen (p : Pool) : Pool := { p with deaf := true }

end Pool

/-- A processor, and the pools that hand deliveries to it. -/
structure Crew where
  processor : Processor
  pools : List Pool := []
deriving Inhabited

namespace Crew

/-- The steps of a crew. -/
inductive Label where
  /-- The job that is first in line gets a permit. -/
  | grant
  /-- A job begins, or goes on after a wait. -/
  | resume (job : Nat)
  /-- A worker reads news of a closed channel. -/
  | heed (pool worker : Nat)
  /-- A worker takes what comes next on the stream. -/
  | pull (pool worker : Nat)
  /-- A worker leaves because the token is cancelled. -/
  | leave (pool worker : Nat)
  /-- A worker leaves because the stream has ended. -/
  | finish (pool worker : Nat)
  /-- A worker is idle again. -/
  | rest (pool worker : Nat)
  /-- Something comes on the stream of a pool. -/
  | arrive (pool : Nat) (item : StreamItem)
  /-- The stream of a pool ends. -/
  | endStream (pool : Nat)
  /-- The workers of a pool hear of a closed channel. -/
  | channelClosed (pool : Nat)
  /-- The workers of a pool will hear no more of channels. -/
  | deafen (pool : Nat)
  /-- The workers of a pool are sent away. -/
  | dismiss (pool : Nat)

/-- The crew with one worker of a pool changed. -/
def setWorker (c : Crew) (pool worker : Nat) (p : Pool) (w : Worker) : Crew :=
  { c with pools := c.pools.set pool { p with workers := p.workers.setIfInBounds worker w } }

/-- What an idle worker does by itself: it reads news, takes what comes, or leaves. -/
def idleStep (s : Scene) (c : Crew) (pool worker : Nat) (p : Pool) (w : Worker) :
    Label → Option (Scene × Crew)
  | .heed _ _ =>
    if w.listening then
      match w.closures.take? with
      | some (_, closures) => some (s, c.setWorker pool worker p { w with closures })
      | none =>
        if p.deaf then some (s, c.setWorker pool worker p { w with listening := false }) else none
    else none
  | .leave _ _ =>
    if s.isCancelled p.token then
      some (s, c.setWorker pool worker p { w with phase := .gone s.now })
    else none
  | .pull _ _ =>
    match p.stream with
    | [] => none
    | .fault :: stream => some (s, c.setWorker pool worker { p with stream } w)
    | .delivery d a :: stream =>
      let (processor, job) := c.processor.request d a p.token
      some (s, ({ c with processor }).setWorker pool worker { p with stream }
        { w with phase := .busy job })
  | .finish _ _ =>
    if p.stream.isEmpty && !p.streaming then
      some (s, c.setWorker pool worker p { w with phase := .gone s.now })
    else none
  | _ => none

/-- What a worker does. -/
def workerStep (s : Scene) (c : Crew) (pool worker : Nat) (l : Label) : Option (Scene × Crew) := do
  let p ← c.pools[pool]?
  let w ← p.workers[worker]?
  match w.phase, l with
  | .idle, l => c.idleStep s pool worker p w l
  | .busy job, .rest _ _ =>
    if c.processor.isOver job then some (s, c.setWorker pool worker p { w with phase := .idle })
    else none
  | _, _ => none

/-- The crew with a pool changed. -/
def modifyPool (c : Crew) (pool : Nat) (f : Pool → Pool) : Crew :=
  { c with pools := c.pools.modify pool f }

/-- Sends the workers of a pool away; they leave once their jobs are over. -/
def dismiss (s : Scene) (c : Crew) (pool : Nat) : Scene :=
  match c.pools[pool]? with
  | none => s
  | some p => s.cancel p.token

/-- Whether all workers of a pool are gone. -/
def isDrained (c : Crew) (pool : Nat) : Bool := ((c.pools[pool]?).map Pool.isDrained).getD true

/-- One step, if it can be taken. -/
def step (s : Scene) (c : Crew) (l : Label) : Option (Scene × Crew) :=
  match l with
  | .arrive pool item => some (s, c.modifyPool pool (·.push item))
  | .endStream pool => some (s, c.modifyPool pool Pool.endStream)
  | .channelClosed pool => some (s, c.modifyPool pool Pool.channelClosed)
  | .deafen pool => some (s, c.modifyPool pool Pool.deafen)
  | .dismiss pool => some (c.dismiss s pool, c)
  | .grant => (c.processor.grant? s).map fun (s, processor) => (s, { c with processor })
  | .resume job => (c.processor.resume? s job).map fun (s, processor) => (s, { c with processor })
  | .heed pool worker | .pull pool worker | .leave pool worker | .finish pool worker
  | .rest pool worker => c.workerStep s pool worker l

/-- The crew after a step in its scene; a step that cannot be taken changes nothing. -/
def perform (l : Label) (sc : Scene × Crew) : Scene × Crew := (sc.2.step sc.1 l).getD sc

/-! ## Taking the steps that can be taken -/

/-- The steps of one worker, in the order in which they are tried. -/
def workerLabels (pool worker : Nat) : List Label :=
  [.rest pool worker, .leave pool worker, .heed pool worker, .pull pool worker, .finish pool worker]

/-- Every step there may be, once: jobs go on first, then each worker does what it can, and then the
next job is admitted. -/
def labels (c : Crew) : List Label :=
  (List.range c.processor.jobs.length).map .resume ++
    (c.pools.zipIdx.flatMap fun (p, pool) =>
      (List.range p.workers.size).flatMap fun worker => workerLabels pool worker) ++
    [.grant]

/-- Takes the steps of a list that can be taken when their turn comes, and says whether there was
one. -/
def takeAll : List Label → Bool → Scene → Crew → Bool × Scene × Crew
  | [], moved, s, c => (moved, s, c)
  | l :: rest, moved, s, c =>
    match c.step s l with
    | none => takeAll rest moved s c
    | some (s, c) => takeAll rest true s c

/-- Takes steps until none can be taken, or so many rounds are over. -/
def settle : (fuel : Nat) → Scene → Crew → Scene × Crew
  | 0, s, c => (s, c)
  | fuel + 1, s, c =>
    match takeAll c.labels false s c with
    | (false, s, c) => (s, c)
    | (true, s, c) => settle fuel s c

/-- The time at which the first of the waits under way ends. -/
def wakeTime? (s : Scene) (c : Crew) : Option Nat := c.processor.wakeTime? s

/-- Lets the clock run to a time; at each end of a wait on the way all steps are taken. -/
def runUntil : (fuel : Nat) → (time : Nat) → Scene → Crew → Scene × Crew
  | 0, _, s, c => (s, c)
  | fuel + 1, time, s, c =>
    let (s, c) := c.settle (fuel + 1) s
    match c.wakeTime? s with
    | some t =>
      if t ≤ time then runUntil fuel time (s.notBefore t) c else (s.notBefore time, c)
    | none => (s.notBefore time, c)

/-- Lets the clock run until something holds, or nothing is under way. -/
def runWhile (p : Scene → Crew → Bool) : (fuel : Nat) → Scene → Crew → Scene × Crew
  | 0, s, c => (s, c)
  | fuel + 1, s, c =>
    let (s, c) := c.settle (fuel + 1) s
    if p s c then
      match c.wakeTime? s with
      | some t => runWhile p fuel (s.notBefore t) c
      | none => (s, c)
    else (s, c)

end Crew

end MessageBus
