import MessageBus.Scene
import MessageBus.Settings.Address

/-!
# Connections

A connection holds one link to the broker and knows whether it is up. It is dialed by whoever asks
for it and, where the settings want that, again by a loop in the background: the loop takes the
reported failures of the link one at a time, dials until a dial succeeds, resting between two dials,
and then announces the reconnect. Closing is done once; it ends the loop.

A dial and the closing of a link take time. `Connection.step` is what happens between two waits, one
label for each kind of step, and the answers of the network are part of the labels; so the runs of a
connection in any surroundings are the lists of labels.
-/

set_option autoImplicit false

namespace MessageBus

/-- Where the reconnect loop stands. -/
inductive LoopPhase where
  /-- It was never begun. -/
  | absent
  /-- It waits for a failure. -/
  | waiting
  | dialing
  /-- It rests until a time before it dials again. -/
  | resting (wakeAt : Nat)
  | ended
deriving DecidableEq, Inhabited, Repr

/-- A connection to a broker. -/
structure Connection where
  settings : Settings
  /-- The link in use. -/
  link : Option Amqp.LinkId := none
  /-- Every link that was in use; each reports its failure here, once. -/
  links : List Amqp.LinkId := []
  /-- The links that have reported their failure. -/
  lost : List Amqp.LinkId := []
  isConnected : Bool := false
  isClosed : Bool := false
  /-- The failures that are reported and not taken by the loop, by their reasons. -/
  failures : List String := []
  loop : LoopPhase := .absent
  /-- The calls whose dial is under way. -/
  dialing : List Nat := []
  /-- The calls that wait for a link to be closed. -/
  closing : List (Nat × Amqp.LinkId) := []
  /-- How often a reconnect was announced. -/
  reconnects : Nat := 0
  /-- The results of the calls that are over. -/
  returned : List (Nat × Outcome) := []
deriving Inhabited

namespace Connection

/-- The steps of a connection. Calls are told apart by numbers. -/
inductive Label where
  /-- Somebody asks for a link. -/
  | connect (call : Nat)
  /-- The dial of a call is over; it may have given a link that nobody had before. -/
  | dialed (call : Nat) (link : Option Amqp.LinkId)
  /-- Somebody asks for the loop. -/
  | startLoop
  /-- A link that was in use reports its failure. -/
  | lose (link : Amqp.LinkId) (reason : String)
  /-- Somebody reports a failure as if the link in use had done so. -/
  | report (reason : String)
  /-- The loop takes a failure. -/
  | takeFailure
  /-- The dial of the loop is over. -/
  | redialed (link : Option Amqp.LinkId)
  /-- The rest of the loop is over. -/
  | wake
  /-- The loop ends because the connection is closed. -/
  | leave
  /-- Somebody closes the connection. -/
  | close (call : Nat) (linkAlive : Bool)
  /-- The broker has answered to the closing of the link, or not. -/
  | hungUp (call : Nat) (agreed : Bool)
deriving DecidableEq, Inhabited, Repr

/-- The call is over. -/
def answerTo (c : Connection) (call : Nat) (result : Outcome) : Connection :=
  { c with returned := c.returned ++ [(call, result)] }

/-- A new link is in use. -/
def install (c : Connection) (link : Amqp.LinkId) : Connection :=
  { c with link := some link, links := c.links ++ [link], isConnected := true }

/-- Why a dial after the closing fails. -/
def closedError : BusError := .connection "connection was closed"

/-- Why a dial fails that nobody answers. -/
def unreachableError : BusError := .connection "the broker cannot be reached"

/-- Why a closing fails. -/
def unclosedError : BusError := .connection "the link was not closed in order"

/-- The reason of a link that is cut. -/
def lostReason : String := "the link was lost"

/-- The connection is closed for good; the link is out of use. -/
def shut (c : Connection) : Connection :=
  { c with isClosed := true, isConnected := false, link := none }

/-- The loop is about to dial. -/
def redial (c : Connection) : Connection :=
  { c with loop := if c.isClosed then .ended else .dialing }

/-- One step at a time, if it can be taken. -/
def step (now : Nat) (c : Connection) : Label → Option Connection
  | .connect call =>
    if c.isClosed then some (c.answerTo call (.error closedError))
    else some { c with dialing := c.dialing ++ [call] }
  | .dialed call link =>
    if call ∈ c.dialing then
      let c := { c with dialing := c.dialing.erase call }
      match link with
      | some link =>
        if link ∈ c.links then none else some ((c.install link).answerTo call (.ok ()))
      | none => some (c.answerTo call (.error unreachableError))
    else none
  | .startLoop => some (if c.loop = .absent then { c with loop := .waiting } else c)
  | .lose link reason =>
    if link ∈ c.links ∧ link ∉ c.lost then
      some { c with lost := c.lost ++ [link], failures := c.failures ++ [reason] }
    else none
  | .report reason => some { c with failures := c.failures ++ [reason] }
  | .takeFailure =>
    match c.loop, c.failures with
    | .waiting, _ :: failures => some { c with failures, isConnected := false }.redial
    | _, _ => none
  | .redialed link =>
    if c.loop = .dialing then
      match link with
      | some link =>
        if link ∈ c.links then none
        else some { c.install link with loop := .waiting, reconnects := c.reconnects + 1 }
      | none => some { c with loop := .resting (now + c.settings.reconnectDelay.ceilMillis) }
    else none
  | .wake =>
    match c.loop with
    | .resting time => if time ≤ now then some c.redial else none
    | _ => none
  | .leave =>
    match c.loop with
    | .waiting | .resting _ => if c.isClosed then some { c with loop := .ended } else none
    | _ => none
  | .close call linkAlive =>
    if c.isClosed then some (c.answerTo call (.ok ()))
    else
      match c.link, linkAlive with
      | some link, true => some { c.shut with closing := c.closing ++ [(call, link)] }
      | _, _ => some (c.shut.answerTo call (.ok ()))
  | .hungUp call agreed =>
    if (c.closing.lookup call).isSome then
      let c := { c with closing := c.closing.filter (·.1 ≠ call) }
      some (c.answerTo call (if agreed then .ok () else .error unclosedError))
    else none

/-- The state after some steps, if all of them can be taken. -/
def steps (now : Nat) (c : Connection) (ls : List Label) : Option Connection :=
  ls.foldlM (step now) c

/-- The result of a call that is over. -/
def result? (c : Connection) (call : Nat) : Option Outcome := c.returned.lookup call

/-! ## In a scene -/

/-- Dials the broker. -/
def dial (c : Connection) (s : Scene) : Option Amqp.LinkId × Scene :=
  match c.settings.address? with
  | none => (none, s)
  | some a =>
    let (link, broker) := s.broker.dial a.login c.settings.appName a.vhost a.channelMax
    (link, { s with broker })

/-- Whether the link in use is alive. -/
def linkAlive (c : Connection) (s : Scene) : Bool :=
  match c.link with
  | none => false
  | some link => s.broker.linkAlive link

/-- Opens a channel on the link in use. -/
def openChannel (c : Connection) (s : Scene) : Except BusError Amqp.ChannelId × Scene :=
  match c.link with
  | none => (.error (.channel "no active connection"), s)
  | some link =>
    if s.broker.linkAlive link then
      let (channel, broker) := s.broker.openChannel link
      (match channel with
        | some channel => .ok channel
        | none => .error (.channel "the broker opened no channel"), { s with broker })
    else (.error (.channel "connection is closed"), s)

/-- Reports whether the connection is up. -/
def health (c : Connection) : Outcome :=
  if c.isConnected then .ok () else .error (.connection "rabbitmq is not connected")

/-- The name of the health report. -/
def healthName : String := "rabbitmq"

/-- The connection after some steps in a scene; a step that cannot be taken changes nothing. -/
def perform (c : Connection) (s : Scene) (l : Label) : Connection := (c.step s.now l).getD c

/-- The number of the next call. -/
def nextCall (c : Connection) : Nat := c.returned.length + c.dialing.length + c.closing.length

/-- Asks for a link, dials, and waits for the result. -/
def connect (c : Connection) (s : Scene) : Outcome × Connection × Scene :=
  let call := c.nextCall
  let c := c.perform s (.connect call)
  match c.result? call with
  | some result => (result, c, s)
  | none =>
    let (link, s) := c.dial s
    let c := c.perform s (.dialed call link)
    ((c.result? call).getD (.ok ()), c, s)

/-- A connection that is dialed, with its loop if the settings want one. -/
def establish (settings : Settings) (s : Scene) : Except BusError Connection × Scene :=
  let (result, c, s) := connect { settings } s
  match result with
  | .error e => (.error e, s)
  | .ok _ => (.ok (if settings.reconnecting then c.perform s .startLoop else c), s)

/-- Closes the connection and waits for the result. -/
def close (c : Connection) (s : Scene) : Outcome × Connection × Scene :=
  if c.isClosed then (.ok (), c, s)
  else
  let call := c.nextCall
  let link := c.link
  let c := c.perform s (.close call (c.linkAlive s))
  let report (c : Connection) (s : Scene) : Outcome × Connection × Scene :=
    match (c.result? call).getD (.ok ()) with
    | .ok _ => (.ok (), c, s.log (.debug "connection" "amqp connection closed"))
    | .error e => (.error e, c, s)
  match c.result? call, link with
  | none, some link =>
    let (agreed, broker) := s.broker.hangUp link 200 "closing connection"
    let s := { s with broker }
    report (c.perform s (.hungUp call agreed)) s
  | _, _ => report c s

/-- What the loop does by itself, without the broker: it ends, takes a failure, or stops resting. -/
def loopStep? (c : Connection) (s : Scene) : Option Connection :=
  [Label.leave, .takeFailure, .wake].findSome? (c.step s.now)

/-- The dial of the loop, if it is about to dial. -/
def redial? (c : Connection) (s : Scene) : Option (Scene × Connection) :=
  if c.loop = .dialing then
    let (link, s) := c.dial s
    (c.step s.now (.redialed link)).map fun c => (s, c)
  else none

/-- Whether the loop is at work. -/
def isLooping (c : Connection) : Bool :=
  match c.loop with
  | .absent | .ended => false
  | _ => true

/-- The time at which the loop goes on by itself. -/
def wakeTime? (c : Connection) : Option Nat :=
  match c.loop with
  | .resting time => some time
  | _ => none

end Connection

end MessageBus
