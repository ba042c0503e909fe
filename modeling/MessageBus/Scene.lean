import MessageBus.Amqp.Broker
import MessageBus.Task
import MessageBus.Token

/-!
# The surroundings of a bus

A `Scene` is everything a bus works in: the clock with its timer, the cancellation tokens, the
recorder of spans, the journal and the log, the supply of fresh ids, and the broker. `Scene.answer`
says what a task gets for a question that takes no time. A task asks for the waits it wants; how
long a timer is able to rest for them is its own affair.
-/

set_option autoImplicit false

namespace MessageBus

/-- One line of the journal. Lines that belong to no delivery have the tag zero. -/
structure Entry where
  time : Nat
  tag : UInt64
  what : Occurrence
deriving Inhabited

/-- A timer that does not rest for more than thirty years of 365 days at a stretch. -/
def thirtyYearTimer (millis : Nat) : Nat := min millis (30 * 365 * 86400 * 1000)

/-- Everything a bus works in. -/
structure Scene where
  /-- The time, in milliseconds. -/
  now : Nat := 0
  /-- How many milliseconds the timer of the surroundings takes for a wait of so many. -/
  timer : Nat → Nat := thirtyYearTimer
  tokens : Tokens := {}
  /-- The token that a handler cancels when it cancels. -/
  current : Token := 0
  recorder : SpanRecorder := {}
  /-- How often each counter was asked for a tag. -/
  counts : List ((Nat × UInt64) × Nat) := []
  journal : List Entry := []
  logs : List LogRecord := []
  /-- The supply of ids that nobody has used. -/
  freshId : Nat → String := fun n => toString n
  /-- How many of them are taken. -/
  taken : Nat := 0
  /-- The seconds on the calendar when the clock stood at zero. -/
  epoch : UInt64 := 0
  broker : Amqp.Broker := {}
deriving Inhabited

/-- Who settles a delivery. -/
inductive Acknowledger where
  /-- A script that writes to the journal and answers with its errors, if it has any. -/
  | scripted (tag : UInt64) (ackError nackError : Option BusError)
  /-- The channel on which the delivery came. -/
  | channel (channel : Amqp.ChannelId) (tag : UInt64)
deriving Inhabited

/-- What a task knows of its place in the scene. -/
structure Situation where
  acknowledger : Acknowledger
  /-- The token whose cancellation cuts waits short. -/
  token : Token
  /-- The observers of handled messages. -/
  observers : List String := []
deriving Inhabited

namespace Scene

/-- The scene some time later. -/
def after (s : Scene) (millis : Nat) : Scene := { s with now := s.now + millis }

/-- The scene once the clock shows a time. -/
def notBefore (s : Scene) (time : Nat) : Scene := { s with now := max s.now time }

def note (s : Scene) (tag : UInt64) (what : Occurrence) : Scene :=
  { s with journal := s.journal ++ [⟨s.now, tag, what⟩] }

def log (s : Scene) (record : LogRecord) : Scene := { s with logs := s.logs ++ [record] }

/-- The scene with nothing to report: no line in the journal or the log, no span that has ended, and
no request recorded by the broker. -/
def reported (s : Scene) : Scene :=
  { s with
    journal := []
    logs := []
    recorder := { s.recorder with ended := [] }
    broker := { s.broker with frames := [] } }

/-- Whether a token is cancelled now. -/
def isCancelled (s : Scene) (t : Token) : Bool := s.tokens.isCancelled t s.now

/-- Cancels a token now. -/
def cancel (s : Scene) (t : Token) : Scene := { s with tokens := s.tokens.cancelAt t s.now }

/-- Cancels a token after a wait of so many milliseconds. -/
def cancelAfter (s : Scene) (t : Token) (millis : Nat) : Scene :=
  { s with tokens := s.tokens.cancelAt t (s.now + s.timer millis) }

/-- A new token, below another one or on its own. -/
def makeToken (s : Scene) (parent : Option Token) : Scene × Token :=
  let (tokens, t) := s.tokens.make parent
  ({ s with tokens }, t)

/-- When a wait of so many milliseconds is cut short by the cancellation of a token: the time from
now on. -/
def cutShort? (s : Scene) (t : Token) (millis : Nat) : Option Nat :=
  match s.tokens.cancelTime? t with
  | none => none
  | some time =>
    if time ≤ s.now then some 0 else if time < s.now + millis then some (time - s.now) else none

/-- How often a counter was asked for a tag, this time included. -/
def count (s : Scene) (counter : Nat) (tag : UInt64) : Nat × Scene :=
  let n := (s.counts.lookup (counter, tag)).getD 0 + 1
  (n, { s with counts := ((counter, tag), n) :: s.counts.filter (·.1 ≠ (counter, tag)) })

/-- A fresh id. -/
def takeId (s : Scene) : String × Scene := (s.freshId s.taken, { s with taken := s.taken + 1 })

/-- The seconds on the calendar. -/
def seconds (s : Scene) : UInt64 := s.epoch + (s.now / 1000).toUInt64

/-- Settles a delivery, unless nobody ever answers. -/
def settle? (s : Scene) (a : Acknowledger) (what : Settlement) : Option (Outcome × Scene) :=
  match a with
  | .scripted tag ackError nackError =>
    let error := match what with
      | .ack => ackError
      | .nack _ => nackError
    some (match error with
      | none => .ok ()
      | some e => .error e, s.note tag (.settled what))
  | .channel channel tag =>
    let (method, error) : Amqp.Method × BusError := match what with
      | .ack => (.ack tag, .ack)
      | .nack requeue => (.nack tag requeue, .nack)
    (s.broker.requestByNumber channel method).map fun (granted, broker) =>
      (if granted then .ok () else .error error, { s with broker })

/-- Whether a question is ever answered. -/
def answers (s : Scene) (w : Situation) : Query → Bool
  | .settle what => (s.settle? w.acknowledger what).isSome
  | _ => true

/-- The answer to a question that takes no time. A wait that is answered here is over at once, and a
settlement that nobody ever answers has failed. -/
def answer (s : Scene) (w : Situation) : (q : Query) → q.Answer × Scene
  | .note tag what => ((), s.note tag what)
  | .log record => ((), s.log record)
  | .clock => (s.now, s)
  | .timer ms => (s.timer ms, s)
  | .pause _ => ((), s)
  | .backoff _ => (.elapsed, s)
  | .cancel => ((), s.cancel s.current)
  | .count counter tag => s.count counter tag
  | .startSpan start =>
    let (recorder, context) := s.recorder.start start
    (context, { s with recorder })
  | .finishSpan span error => ((), { s with recorder := s.recorder.finish span error })
  | .abandonSpan span => ((), { s with recorder := s.recorder.abandon span })
  | .settle what => (s.settle? w.acknowledger what).getD (.error .internal, s)
  | .observers => (w.observers, s)

end Scene

end MessageBus
