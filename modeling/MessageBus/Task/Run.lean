import MessageBus.Scene

/-!
# Running tasks

`Task.run` does a task from its beginning to its end; the clock jumps over its waits. Where several
tasks are under way, `Task.advance` does a task up to its next wait, and the clock stands still. A
wait for an answer that never comes is the last one.
-/

set_option autoImplicit false

namespace MessageBus

/-- A task that is over, or waits. -/
inductive Parked (α : Type) where
  | ended (a : α)
  /-- It waits for an answer that never comes. -/
  | stranded
  /-- It goes on at a time. -/
  | sleeping (wakeAt : Nat) (rest : Task α)
  /-- It goes on at a time, or when its token is cancelled. -/
  | backingOff (since wakeAt : Nat) (token : Token) (rest : Wake → Task α)

namespace Task

variable {α : Type}

/-- Does a task to its end. -/
def run (w : Situation) : Task α → Scene → α × Scene
  | .done a, s => (a, s)
  | .ask q rest, s =>
    match q, rest with
    | .pause ms, rest => run w (rest ()) (s.after ms)
    | .backoff ms, rest =>
      match s.cutShort? w.token ms with
      | some d => run w (rest (.cancelled d)) (s.after d)
      | none => run w (rest .elapsed) (s.after ms)
    | q, rest => run w (rest (s.answer w q).1) (s.answer w q).2

/-- Does a task up to its next wait. -/
def advance (w : Situation) : Task α → Scene → Parked α × Scene
  | .done a, s => (.ended a, s)
  | .ask q rest, s =>
    match q, rest with
    | .pause ms, rest =>
      if ms = 0 then advance w (rest ()) s else (.sleeping (s.now + ms) (rest ()), s)
    | .backoff ms, rest =>
      if s.isCancelled w.token then advance w (rest (.cancelled 0)) s
      else if ms = 0 then advance w (rest .elapsed) s
      else (.backingOff s.now (s.now + ms) w.token rest, s)
    | q, rest =>
      if s.answers w q then advance w (rest (s.answer w q).1) (s.answer w q).2 else (.stranded, s)

end Task

namespace Parked

variable {α : Type}

/-- The value of a task that is over. -/
def value? : Parked α → Option α
  | ended a => some a
  | _ => none

/-- The time at which a wait ends, as far as is known now. -/
def wakeTime? (s : Scene) : Parked α → Option Nat
  | ended _ | stranded => none
  | sleeping time _ => some time
  | backingOff _ time token _ => earlier (some time) (s.tokens.cancelTime? token)

/-- The task that a wait goes on with, if the wait is over. -/
def wake? (s : Scene) : Parked α → Option (Task α)
  | ended _ | stranded => none
  | sleeping time rest => if time ≤ s.now then some rest else none
  | backingOff since time token rest =>
    if time ≤ s.now then some (rest .elapsed)
    else if s.isCancelled token then some (rest (.cancelled (s.now - since)))
    else none

end Parked

end MessageBus
