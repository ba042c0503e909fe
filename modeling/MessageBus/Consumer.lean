import MessageBus.Consumer.Pool
import MessageBus.Consumer.Status

/-!
# Consumers

A consumer holds at most one subscription, in a slot that is guarded by a lock. Three kinds of calls
work on the slot: `start` and `stop`, and the rebuilds that the watcher of the consumer begins when
it hears of a reconnect or of a closed channel. A call waits for the lock, releases the subscription
it finds (the broker is asked to cancel it, the workers finish what they have, the channel is
closed), and then either builds a new one, request by request, or leaves the slot empty.

`Consumer.step` is what happens between two waits. Its labels carry the answers of the broker and
whether the connection is up, so the runs of a consumer in any surroundings are the lists of labels.
At most one call holds the lock, so the state has one place for it.
-/

set_option autoImplicit false

namespace MessageBus

/-- A subscription that is in use. -/
structure Subscription where
  channel : Amqp.ChannelId
  tag : String
  /-- Which of the consumer's pools works for it. -/
  pool : Nat
deriving DecidableEq, Inhabited, Repr

/-- The requests on a new channel, in order. -/
inductive SetupStep where
  | prefetch
  | exchange
  | queue
  | binding
  | consume
deriving DecidableEq, Inhabited, Repr

namespace SetupStep

/-- The request that follows. -/
def next? : SetupStep → Option SetupStep
  | prefetch => some exchange
  | exchange => some queue
  | queue => some binding
  | binding => some consume
  | consume => none

/-- The request itself. -/
def method (s : ConsumerSettings) (names : TopologyNames) (tag : String) : SetupStep → Amqp.Method
  | prefetch => .prefetch s.prefetch
  | exchange => .declareExchange names.exchange s.exchange
  | queue => .declareQueue names.queue s.queue
  | binding => .bindQueue names.queue names.exchange names.routingKey s.binding.arguments
  | consume => .consume names.queue tag s.autoAck

/-- The error when the broker refuses it. -/
def error (names : TopologyNames) : SetupStep → BusError
  | prefetch => .prefetch names.queue
  | exchange => .exchangeDeclaration names.exchange
  | queue => .queueDeclaration names.queue
  | binding => .binding names.exchange names.queue
  | consume => .subscription names.queue

end SetupStep

/-- What a call wants. -/
inductive Purpose where
  /-- To subscribe, with workers below a token. -/
  | start (token : Token)
  | stop
  /-- To subscribe anew, for a watcher. -/
  | rebuild (watcher : Nat)
deriving DecidableEq, Inhabited, Repr

/-- A call on the slot. -/
structure Call where
  id : Nat
  purpose : Purpose
deriving DecidableEq, Inhabited, Repr

/-- What the call that holds the lock waits for. -/
inductive CallPhase where
  /-- The broker is asked to cancel the subscription. -/
  | cancelling (s : Subscription)
  /-- The workers finish; the connection was up or not when the release began. -/
  | draining (s : Subscription) (connected : Bool)
  /-- The broker is asked to close the channel. -/
  | closing (s : Subscription)
  /-- A channel is asked for. -/
  | opening
  /-- A request on the new channel. -/
  | building (step : SetupStep) (channel : Amqp.ChannelId) (tag : String)
  /-- A stop is about to send the watcher away. -/
  | retiring (result : Outcome)
deriving Inhabited

/-- What a watcher does. -/
inductive WatcherPhase where
  | listening
  /-- It waits for the end of a rebuild. -/
  | rebuilding
  | gone
deriving DecidableEq, Inhabited, Repr

/-- Who rebuilds the subscription of a consumer. -/
structure Watcher where
  token : Token
  /-- The reconnects it has not read. -/
  reconnects : Backlog := {}
  /-- The closed channels it has not read of. -/
  closures : Backlog := {}
  phase : WatcherPhase := .listening
deriving DecidableEq, Inhabited, Repr

/-- A consumer. -/
structure Consumer where
  crew : Crew
  status : ConsumerStatus := .idle
  /-- How many rebuilds have begun. -/
  rebuilds : Nat := 0
  slot : Option Subscription := none
  /-- The channels it has subscribed on. -/
  channels : List Amqp.ChannelId := []
  /-- The starts that have not looked for a watcher, with the tokens they were given. -/
  entering : List (Nat × Token) := []
  /-- The calls that wait for the lock, in order. -/
  waiting : List Call := []
  /-- The call that holds the lock. -/
  active : Option (Call × CallPhase) := none
  /-- The token below which everything works, while there is a watcher. -/
  watchToken : Option Token := none
  watchers : List Watcher := []
  /-- How many calls were made. -/
  calls : Nat := 0
  /-- The results of the calls that are over. -/
  returned : List (Nat × Outcome) := []
deriving Inhabited

/-- The answer to a request. -/
inductive Reply where
  | opened (channel : Amqp.ChannelId)
  | noChannel (error : BusError)
  | granted
  | refused
deriving DecidableEq, Inhabited

/-- What a consumer asks of the broker. -/
inductive Request where
  | openChannel
  | on (channel : Amqp.ChannelId) (method : Amqp.Method)
deriving Inhabited

namespace Consumer

/-- The steps of a consumer. -/
inductive Label where
  /-- Somebody starts it, with a token. -/
  | start (token : Token)
  /-- Somebody stops it. -/
  | stop
  /-- The first start that has not looked for a watcher does so. -/
  | watch
  /-- The first call that waits takes the lock. -/
  | enter (connected : Bool)
  /-- The broker answers. -/
  | reply (reply : Reply)
  /-- The workers of the subscription that is released are gone. -/
  | drained (channelOpen : Bool)
  /-- A stop sends the watcher away and is over. -/
  | retire
  /-- A watcher reads what comes next. -/
  | hear (watcher : Nat) (connected : Bool)
  /-- A reconnect is announced. -/
  | reconnected
  /-- The broker closed a channel of the consumer. -/
  | channelClosed
  /-- A step of the workers and the processor. -/
  | work (label : Crew.Label)

/-- A consumer of some settings. -/
def ofSettings (settings : ConsumerSettings) (registry : Registry) (observers : List String) :
    Consumer where
  crew := { processor := .ofSettings settings registry observers }

def settings (c : Consumer) : ConsumerSettings := c.crew.processor.settings

/-- The name under which a consumer is known. -/
def name (c : Consumer) : String := c.settings.name

/-- The names of its topology. -/
def names (c : Consumer) : TopologyNames := c.settings.names

/-- What the call that holds the lock asks of the broker, if it waits for that. -/
def request? (c : Consumer) : Option Request :=
  match c.active with
  | some (_, .cancelling s) => some (.on s.channel (.cancel s.tag))
  | some (_, .closing s) => some (.on s.channel (.closeChannel 200 "consumer stopped"))
  | some (_, .opening) => some .openChannel
  | some (_, .building step channel tag) =>
    some (.on channel (step.method c.settings c.names tag))
  | _ => none

/-- A report of the consumer. -/
def report (c : Consumer) (level : LogLevel) (message : String)
    (fields : List (String × LogValue) := []) : LogRecord :=
  ⟨level, "dispatcher", message, fields ++ [("consumer", .text c.name)]⟩

/-- Moves on to another stage if the consumer is in a given one. -/
def transition (c : Consumer) (before after : ConsumerStatus) : Consumer :=
  if c.status = before then { c with status := after } else c

/-- A call gives up the lock and is over. -/
def answerTo (c : Consumer) (call : Call) (result : Outcome) : Consumer :=
  { c with active := none, returned := c.returned ++ [(call.id, result)] }

/-- A watcher is free to listen again. -/
def listenAgain (c : Consumer) (watcher : Nat) : Consumer :=
  { c with watchers := c.watchers.modify watcher fun w => { w with phase := .listening } }

/-- A call that was to subscribe is over. -/
def subscribed (s : Scene) (c : Consumer) (call : Call) (result : Outcome) : Scene × Consumer :=
  match call.purpose, result with
  | .start _, .ok _ =>
    (s.log (c.report .info "consumer started"),
      (c.transition .starting .running).answerTo call (.ok ()))
  | .start _, .error e =>
    (s.log (c.report .error "failure to start the consumer" [("error", .text e.message)]),
      (c.transition .starting .idle).answerTo call (.error e))
  | .rebuild watcher, .ok _ =>
    let s := if c.status = .resubscribing then s.log (c.report .info "consumer resubscribed") else s
    (s, ((c.transition .resubscribing .running).answerTo call (.ok ())).listenAgain watcher)
  | .rebuild watcher, .error e =>
    (s.log (c.report .error "failure to resubscribe, waiting for the next signal"
        [("error", .text e.message)]),
      (c.answerTo call (.error e)).listenAgain watcher)
  | .stop, result => (s, c.answerTo call result)

/-- The workers of a subscription are sent away. -/
def drain (s : Scene) (c : Consumer) (call : Call) (old : Subscription) (connected : Bool) :
    Scene × Consumer :=
  (c.crew.dismiss s old.pool, { c with active := some (call, .draining old connected) })

/-- What a call does once nothing is left of the old subscription. -/
def proceed (s : Scene) (c : Consumer) (call : Call) (released : Outcome) : Scene × Consumer :=
  match call.purpose with
  | .stop => (s, { c with active := some (call, .retiring released) })
  | _ =>
    let s := match released with
      | .ok _ => s
      | .error e =>
        s.log (.warn "dispatcher" "failure to release the previous subscription"
          [("error", .text e.message)])
    (s, { c with active := some (call, .opening) })

/-- A call that has the lock takes the subscription out of the slot and begins to release it. A call
that was to subscribe does nothing once a stop has begun. -/
def takeSlot (s : Scene) (c : Consumer) (call : Call) (connected : Bool) : Scene × Consumer :=
  if call.purpose ≠ .stop ∧ c.status.isStopping then c.subscribed s call (.ok ())
  else
    match c.slot with
    | none => c.proceed s call (.ok ())
    | some old =>
      let c := { c with slot := none }
      if connected then (s, { c with active := some (call, .cancelling old) })
      else c.drain s call old false

/-- The token below which a call's workers work. -/
def workToken (c : Consumer) (call : Call) : Token :=
  match call.purpose with
  | .start token => token
  | .rebuild watcher => ((c.watchers[watcher]?).map Watcher.token).getD 0
  | .stop => 0

/-- Fills the slot with a subscription and workers for it. -/
def install (s : Scene) (c : Consumer) (call : Call) (channel : Amqp.ChannelId) (tag : String) :
    Scene × Consumer :=
  let (s, pool) := Pool.spawn s (c.workToken call) c.settings.concurrencyLimit.toNat
  let names := c.names
  let s := s.log (.debug "dispatcher" "consuming"
    [("queue", .text names.queue), ("exchange", .text names.exchange),
      ("routing_key", .text names.routingKey),
      ("workers", .number c.settings.concurrencyLimit.toNat)])
  let c := { c with
    slot := some ⟨channel, tag, c.crew.pools.length⟩
    channels := c.channels ++ [channel]
    crew := { c.crew with pools := c.crew.pools ++ [pool] } }
  c.subscribed s call (.ok ())

/-- The detail of the error of a channel that could not be closed. -/
def unclosedError : BusError := .channel "the channel was not closed in order"

/-- The broker has answered the call that holds the lock. -/
def replied (s : Scene) (c : Consumer) (call : Call) (phase : CallPhase) (r : Reply) :
    Option (Scene × Consumer) :=
  match phase, r with
  | .cancelling old, .granted => some (c.drain s call old true)
  | .cancelling old, .refused =>
    let s := s.log (.warn "dispatcher" "failure to cancel the consumer" [("tag", .text old.tag)])
    some (c.drain s call old true)
  | .closing _, .granted => some (c.proceed s call (.ok ()))
  | .closing _, .refused =>
    let s := s.log (.error "dispatcher" "failure to close the channel")
    some (c.proceed s call (.error unclosedError))
  | .opening, .opened channel =>
    let (id, s) := s.takeId
    some (s, { c with active := some (call, .building .prefetch channel (c.name ++ "-" ++ id)) })
  | .opening, .noChannel e => some (c.subscribed s call (.error e))
  | .building step channel tag, .granted =>
    match step.next? with
    | some step => some (s, { c with active := some (call, .building step channel tag) })
    | none => some (c.install s call channel tag)
  | .building step _ _, .refused => some (c.subscribed s call (.error (step.error c.names)))
  | _, _ => none

/-- A start finds the watcher of the consumer, or makes one below the token it was given. -/
def findWatcher (s : Scene) (c : Consumer) (parent : Token) : Scene × Consumer × Token :=
  let made := s.makeToken (some parent)
  let fresh : Scene × Consumer × Token :=
    (made.1, { c with
      watchToken := some made.2
      watchers := c.watchers ++ [{ token := made.2 }] }, made.2)
  match c.watchToken with
  | some token => if s.isCancelled token then fresh else (s, c, token)
  | none => fresh

/-- A watcher begins a rebuild, if the consumer admits one. -/
def beginRebuild (s : Scene) (c : Consumer) (watcher : Nat) (w : Watcher) : Scene × Consumer :=
  if c.status.admitsRebuild then
    let rebuilds := c.rebuilds + 1
    (s.log (c.report .debug "resubscribing" [("attempt", .number rebuilds)]),
      { c with
        status := .resubscribing
        rebuilds
        calls := c.calls + 1
        waiting := c.waiting ++ [⟨c.calls, .rebuild watcher⟩]
        watchers := c.watchers.set watcher { w with phase := .rebuilding } })
  else (s, { c with watchers := c.watchers.set watcher w })

/-- A watcher reads a reconnect. The closed channels it has not read of belong to the link that was
lost, so it passes over them. -/
def hearReconnect (s : Scene) (c : Consumer) (watcher : Nat) (w : Watcher) (signal : Signal) :
    Scene × Consumer :=
  let missed := match signal with
    | .one => []
    | .lagged n => [("missed", LogValue.number n)]
  let s := s.log (c.report .info "connection reestablished, resubscribing" missed)
  let stale := w.closures.reads
  let s := if stale = 0 then s
    else s.log (c.report .debug "discarded channel closures" [("stale", .number stale)])
  c.beginRebuild s watcher { w with closures := {} }

/-- A watcher reads what comes next: first whether it is to go, then reconnects, then closed
channels. While the connection is down a closed channel means nothing, since a reconnect will
follow. -/
def hear (s : Scene) (c : Consumer) (watcher : Nat) (connected : Bool) :
    Option (Scene × Consumer) := do
  let w ← c.watchers[watcher]?
  if w.phase ≠ .listening then none
  else if s.isCancelled w.token then
    some (s.log (c.report .debug "resubscribe watcher stopped"),
      { c with watchers := c.watchers.set watcher { w with phase := .gone } })
  else
    match w.reconnects.take? with
    | some (signal, reconnects) => some (c.hearReconnect s watcher { w with reconnects } signal)
    | none =>
      match w.closures.take? with
      | none => none
      | some (_, closures) =>
        let w := { w with closures }
        if connected then
          let s := s.log (c.report .warn "channel closed, resubscribing")
          some (c.beginRebuild s watcher w)
        else some (s, { c with watchers := c.watchers.set watcher w })

/-- One step, if it can be taken. -/
def step (s : Scene) (c : Consumer) : Label → Option (Scene × Consumer)
  | .start token =>
    some (s, { c with
      status := .starting
      calls := c.calls + 1
      entering := c.entering ++ [(c.calls, token)] })
  | .stop =>
    some (s, { c with
      status := .stopping
      calls := c.calls + 1
      waiting := c.waiting ++ [⟨c.calls, .stop⟩] })
  | .watch =>
    match c.entering with
    | [] => none
    | (id, parent) :: entering =>
      let (s, c, token) := findWatcher s { c with entering } parent
      some (s, { c with waiting := c.waiting ++ [⟨id, .start token⟩] })
  | .enter connected =>
    match c.active, c.waiting with
    | none, call :: waiting => some ({ c with waiting }.takeSlot s call connected)
    | _, _ => none
  | .reply r =>
    match c.active with
    | some (call, phase) => c.replied s call phase r
    | none => none
  | .drained channelOpen =>
    match c.active with
    | some (call, .draining old connected) =>
      if c.crew.isDrained old.pool then
        if connected && channelOpen then some (s, { c with active := some (call, .closing old) })
        else some (c.proceed s call (.ok ()))
      else none
    | _ => none
  | .retire =>
    match c.active with
    | some (call, .retiring result) =>
      let s := match c.watchToken with
        | some token => s.cancel token
        | none => s
      some (s.log (c.report .info "consumer stopped"),
        { c with watchToken := none, status := .stopped }.answerTo call result)
    | _ => none
  | .hear watcher connected => c.hear s watcher connected
  | .reconnected =>
    some (s, { c with
      watchers := c.watchers.map fun w => { w with reconnects := w.reconnects.push } })
  | .channelClosed =>
    some (s, { c with
      watchers := c.watchers.map fun w => { w with closures := w.closures.push }
      crew := { c.crew with pools := c.crew.pools.map Pool.channelClosed } })
  | .work l => (c.crew.step s l).map fun (s, crew) => (s, { c with crew })

/-- The state after some steps, if all of them can be taken. -/
def steps (s : Scene) (c : Consumer) (ls : List Label) : Option (Scene × Consumer) :=
  ls.foldlM (fun sc l => step sc.1 sc.2 l) (s, c)

/-- The result of a call that is over. -/
def result? (c : Consumer) (call : Nat) : Option Outcome := c.returned.lookup call

/-- The subscriptions that are in the slot or being released. -/
def held (c : Consumer) : List Subscription :=
  c.slot.toList ++
    match c.active with
    | some (_, .cancelling s) | some (_, .draining s _) | some (_, .closing s) => [s]
    | _ => []

/-- The channels of those subscriptions, and the one on which another is being built. -/
def channelsInUse (c : Consumer) : List Amqp.ChannelId :=
  c.held.map Subscription.channel ++
    match c.active with
    | some (_, .building _ channel _) => [channel]
    | _ => []

/-- Whether no call is under way. -/
def isQuiet (c : Consumer) : Bool :=
  c.entering.isEmpty && c.waiting.isEmpty && c.active.isNone

end Consumer

end MessageBus
