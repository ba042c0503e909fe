import MessageBus.Consumer
import MessageBus.Producer

/-!
# Buses

A bus is a connection with all consumers of an application and its producer. `Bus.ofSettings` builds
one and refuses settings that cannot be used. Starting a bus starts its consumers in order and gives
up at the first failure; stopping it stops all of them, and its result is the first failure. A bus
reports that it is started or stopped, and each consumer that failed to stop.

A call on several consumers is a series of calls, one after the other. `Bus.ownStep?` is a step that
nobody outside of the bus has to answer; `Bus.brokerStep?` is one that the broker answers.
-/

set_option autoImplicit false

namespace MessageBus

/-- What is asked of several consumers. -/
inductive SeriesKind where
  /-- To start, below a token. -/
  | start (token : Token)
  | stop
deriving DecidableEq, Inhabited, Repr

/-- Calls on several consumers, one after the other. -/
structure Series where
  kind : SeriesKind
  /-- The consumers that are still to be called. -/
  todo : List Nat
  /-- The consumer that is called, and the number of the call. -/
  current : Option (Nat × Nat) := none
  /-- The first failure. -/
  failure : Option BusError := none
  isOver : Bool := false
  /-- Whether the end is written to the journal. -/
  noted : Bool := false
  /-- Whether they are a start or a stop of the whole bus, which it reports. -/
  isReported : Bool := false
deriving Inhabited

namespace Series

/-- The result of calls that are over. -/
def result (c : Series) : Outcome :=
  match c.failure with
  | none => .ok ()
  | some e => .error e

/-- The calls after one has returned: a start gives up at a failure, a stop goes on. -/
def afterReturn (c : Series) (r : Outcome) : Series :=
  match r, c.kind with
  | .ok _, _ => { c with current := none }
  | .error e, .start _ => { c with current := none, todo := [], failure := some e }
  | .error e, .stop => { c with current := none, failure := some (c.failure.getD e) }

/-- What is reported when a call has returned: a consumer that failed to stop. -/
def returnReports (c : Series) (consumer : String) (r : Outcome) : List LogRecord :=
  match r, c.kind with
  | .error e, .stop =>
    [.error "bus" "failure to stop consumer"
      [("error", .text e.message), ("consumer", .text consumer)]]
  | _, _ => []

/-- What is reported at the end: that all of so many consumers are started, or that the bus is
stopped. A start that was given up ends without a report. -/
def endReports (c : Series) (consumers : Nat) : List LogRecord :=
  match c.kind, c.failure with
  | .start _, none => [.info "bus" "rabbitmq bus started" [("consumers", .number consumers)]]
  | .start _, some _ => []
  | .stop, _ => [.info "bus" "rabbitmq bus stopped"]

/-- The scene with reports of the bus in the log, if the bus makes them. -/
def report (c : Series) (records : List LogRecord) (s : Scene) : Scene :=
  if c.isReported then records.foldl Scene.log s else s

end Series

/-- Why there is no bus. -/
inductive BuildFailure where
  /-- Dialing failed, or some settings cannot be used. -/
  | refused (error : BusError)
  /-- A consumer is to handle more deliveries at once than there can be permits. -/
  | tooManyPermits
deriving DecidableEq, Inhabited

/-- A connection, its consumers and its producer. -/
structure Bus where
  connection : Connection
  consumers : List Consumer := []
  producer : Producer
  /-- The calls on several consumers, with the ones that are over. -/
  series : List Series := []
  /-- Whether there is more of the bus than its connection. -/
  isBuilt : Bool := true
  /-- Whether the application has the bus in hand. -/
  isHeld : Bool := true
deriving Inhabited

namespace Bus

/-- A bus on a connection. The consumers are looked at before the producer; the first settings that
cannot be used give the failure. -/
def ofSettings (connection : Connection) (registry : Registry) (consumers : List ConsumerSettings)
    (producers : List ProducerSettings) : Except BuildFailure Bus := do
  consumers.forM fun s => do
    (s.check registry).mapError .refused
    if !s.hasPermits then throw .tooManyPermits
  (Producer.check registry producers).mapError .refused
  return {
    connection
    consumers := consumers.map fun s => Consumer.ofSettings s registry []
    producer := .ofSettings connection.settings producers [] }

/-- The consumer of a name; of several the first. -/
def consumer? (b : Bus) (name : String) : Option Nat := b.consumers.findIdx? (·.name == name)

/-- Tells every consumer of an observer. -/
def addObserver (b : Bus) (name : String) : Bus :=
  { b with
    consumers := b.consumers.map fun c =>
      { c with crew := { c.crew with processor := c.crew.processor.addObserver name } } }

/-- The bus with a consumer changed. -/
def setConsumer (b : Bus) (i : Nat) (c : Consumer) : Bus :=
  { b with consumers := b.consumers.set i c }

/-- Announces a reconnect to every consumer. -/
def announce (b : Bus) (s : Scene) : Bus :=
  { b with
    consumers := b.consumers.map fun c => ((c.step s .reconnected).map Prod.snd).getD c }

/-! ## Calls on several consumers -/

/-- Begins calls; they have the number of the calls before them. -/
def begin (b : Bus) (calls : Series) : Bus × Nat :=
  ({ b with series := b.series ++ [calls] }, b.series.length)

/-- Begins calls on all consumers in order. -/
def beginOnAll (b : Bus) (kind : SeriesKind) (noted : Bool := false) : Bus × Nat :=
  b.begin { kind, todo := List.range b.consumers.length, noted, isReported := true }

/-- Begins to start the consumers in order. -/
def start (b : Bus) (token : Token) : Bus × Nat := b.beginOnAll (.start token)

/-- Begins to stop the consumers in order. -/
def stop (b : Bus) : Bus × Nat := b.beginOnAll .stop

/-- The result of calls that are over. -/
def result? (b : Bus) (series : Nat) : Option Outcome := do
  let c ← b.series[series]?
  if c.isOver then some c.result else none

/-- The next step of calls on several consumers: the one under way has returned, or the next one is
made, or all of them are over. -/
def seriesStep? (s : Scene) (b : Bus) (k : Nat) : Option (Scene × Bus) := do
  let c ← b.series[k]?
  let put (c : Series) (b : Bus) : Bus := { b with series := b.series.set k c }
  if c.isOver then none
  else
    match c.current with
    | some (i, call) =>
      let consumer ← b.consumers[i]?
      let r ← consumer.result? call
      return (c.report (c.returnReports consumer.name r) s, put (c.afterReturn r) b)
    | none =>
      match c.todo with
      | [] =>
        let s := c.report (c.endReports b.consumers.length) s
        let s := if c.noted then s.note 0 (.stopped c.result) else s
        return (s, put { c with isOver := true } b)
      | i :: todo =>
        let consumer ← b.consumers[i]?
        let label := match c.kind with
          | .start token => Consumer.Label.start token
          | .stop => .stop
        let (s, consumer') ← consumer.step s label
        let c := { c with todo, current := some (i, consumer.calls) }
        return (s, put c (b.setConsumer i consumer'))

/-! ## What consumers ask for -/

/-- The broker's answer to a consumer. -/
def answer (b : Bus) (s : Scene) : Request → Reply × Scene
  | .openChannel =>
    match b.connection.openChannel s with
    | (.ok channel, s) => (.opened channel, s)
    | (.error e, s) => (.noChannel e, s)
  | .on channel method =>
    let (granted, broker) := s.broker.request channel method
    (if granted then .granted else .refused, { s with broker })

/-- Whether a request fails without reaching the broker. -/
def failsAtOnce (b : Bus) (s : Scene) : Request → Bool
  | .openChannel => !b.connection.linkAlive s
  | .on channel _ => !s.broker.channelOpen channel

/-- A consumer has its request answered. -/
def replyStep? (b : Bus) (s : Scene) (c : Consumer) : Option (Scene × Consumer) := do
  let (reply, s) := b.answer s (← c.request?)
  c.step s (.reply reply)

/-- The channel of the subscription a consumer is draining. -/
def drainingChannel (c : Consumer) : Amqp.ChannelId :=
  match c.active with
  | some (_, .draining old _) => old.channel
  | _ => 0

/-- A step of a call on a consumer that takes no time. -/
def callStep? (b : Bus) (s : Scene) (c : Consumer) : Option (Scene × Consumer) :=
  match c.request? with
  | some r => if b.failsAtOnce s r then b.replyStep? s c else none
  | none =>
    [Consumer.Label.drained (s.broker.channelOpen (drainingChannel c)), .retire,
      .enter b.connection.isConnected, .watch].findSome? (c.step s)

/-- A watcher of a consumer reads what comes next. -/
def hearStep? (b : Bus) (s : Scene) (c : Consumer) : Option (Scene × Consumer) :=
  (List.range c.watchers.length).findSome? fun i => c.step s (.hear i b.connection.isConnected)

/-- The workers of a consumer do what they can. -/
def workStep? (s : Scene) (c : Consumer) : Option (Scene × Consumer) :=
  match Crew.takeAll c.crew.labels false s c.crew with
  | (true, s, crew) => some (s, { c with crew })
  | _ => none

/-- The stream of a channel that is dead ends. -/
def streamStep? (s : Scene) (c : Consumer) : Option (Scene × Consumer) := do
  let old ← c.held.find? fun h =>
    !s.broker.channelOpen h.channel && ((c.crew.pools[h.pool]?).map Pool.streaming).getD false
  c.step s (.work (.endStream old.pool))

/-- A subscription without workers is cancelled at the broker. -/
def forsake? (s : Scene) (c : Consumer) : Option (Scene × Consumer) := do
  let old ← c.held.find? fun h =>
    c.crew.isDrained h.pool && s.broker.channelOpen h.channel &&
      s.broker.subscriptions.any fun q => q.channel == h.channel && q.active
  let (_, broker) := s.broker.request old.channel (.cancel old.tag)
  return ({ s with broker }, c)

/-- The first consumer that can take a step takes it. -/
def eachConsumer (b : Bus) (f : Consumer → Option (Scene × Consumer)) : Option (Scene × Bus) :=
  (List.range b.consumers.length).findSome? fun i => do
    let (s, c) ← f (← b.consumers[i]?)
    return (s, b.setConsumer i c)

/-! ## The steps of a bus -/

/-- A step of the calls under way that takes no time. -/
def promptStep? (s : Scene) (b : Bus) : Option (Scene × Bus) :=
  ((List.range b.series.length).findSome? (b.seriesStep? s)).or (b.eachConsumer (b.callStep? s))

/-- A step of what works in the background. -/
def backgroundStep? (s : Scene) (b : Bus) : Option (Scene × Bus) :=
  (b.eachConsumer (streamStep? s)).or <|
  (b.eachConsumer (workStep? s)).or <|
  (b.eachConsumer (forsake? s)).or <|
  (b.eachConsumer (b.hearStep? s)).or <|
  (b.connection.loopStep? s).map fun connection => (s, { b with connection })

/-- A step that waits for the broker: the loop dials, or a consumer has its request answered. -/
def brokerStep? (s : Scene) (b : Bus) : Option (Scene × Bus) :=
  match b.connection.redial? s with
  | some (s, connection) =>
    let b' := { b with connection }
    some (s, if connection.reconnects ≠ b.connection.reconnects then b'.announce s else b')
  | none => b.eachConsumer (b.replyStep? s)

/-- What a bus is told by the broker. -/
def hearNews (s : Scene) (b : Bus) : Amqp.News → Bus
  | .linkLost link =>
    { b with connection := b.connection.perform s (.lose link Connection.lostReason) }
  | .channelClosed channel =>
    { b with
      consumers := b.consumers.map fun c =>
        if c.channels.contains channel then
          ((c.step s .channelClosed).map Prod.snd).getD c
        else c }

/-- The time at which the first of the waits under way ends. -/
def wakeTime? (s : Scene) (b : Bus) : Option Nat :=
  b.consumers.foldl (fun time c => earlier time (c.crew.wakeTime? s)) b.connection.wakeTime?

/-- Whether the bus as a whole is held: by the application, or by calls under way. -/
def isInHand (b : Bus) : Bool := b.isHeld || b.series.any fun c => !c.isOver

/-- Whether a consumer is held: by the bus, or by one of its watchers. -/
def keeps (b : Bus) (c : Consumer) : Bool :=
  b.isInHand || c.watchers.any fun w => w.phase ≠ .gone

/-- Whether anybody holds on to the connection: the bus, the loop, or a consumer. -/
def isAlive (b : Bus) : Bool :=
  b.isInHand || b.connection.isLooping || b.consumers.any b.keeps

/-- The channels the bus holds on to. -/
def channels (b : Bus) : List Amqp.ChannelId :=
  (b.consumers.filter b.keeps).flatMap Consumer.channelsInUse ++
    if b.isInHand then (b.producer.channel.map ProducerChannel.channel).toList else []

/-- The channels whose deliveries workers still take. -/
def streams (b : Bus) : List Amqp.ChannelId :=
  b.consumers.flatMap fun c =>
    (c.held.filter fun h => !c.crew.isDrained h.pool).map Subscription.channel

/-- Publishes a message. -/
def publish (b : Bus) (message : Message) (metadata : Metadata) (exchange : Option String)
    (s : Scene) : Outcome × Bus × Scene :=
  let (result, producer, s) :=
    b.producer.publish (Producer.wire b.connection) none message metadata exchange s
  (result, { b with producer }, s)

end Bus

end MessageBus
