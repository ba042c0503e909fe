import MessageBus.Bus

/-!
# Applications

An application makes buses and works with one of them at a time. Buses that it has let go of live on
as long as their loop or a watcher does; a channel that nobody holds on to is closed, and then a
link that nobody holds on to is hung up. Everything under way is brought forward by
`Application.step?`: calls first, then what works in the background, and the requests that the
broker answers last. Where nothing can go on, the clock jumps to the end of the next wait.
-/

set_option autoImplicit false

namespace MessageBus

/-- An application with its surroundings. -/
structure Application where
  scene : Scene := {}
  buses : List Bus := []
  /-- The channels the application has opened for itself. -/
  channels : List Amqp.ChannelId := []
deriving Inhabited

namespace Application

/-- The number of the bus the application works with, if it was built. -/
def current? (a : Application) : Option Nat := a.buses.findIdx? fun b => b.isHeld && b.isBuilt

/-- The bus the application works with. -/
def bus? (a : Application) : Option Bus := a.buses.find? Bus.isHeld

/-- The application with its bus changed. -/
def modify (a : Application) (f : Bus → Bus) : Application :=
  { a with buses := a.buses.map fun b => if b.isHeld then f b else b }

/-- Lets go of the bus. -/
def release (a : Application) : Application := a.modify fun b => { b with isHeld := false }

/-- Works with another bus from now on. -/
def adopt (a : Application) (b : Bus) : Application :=
  { a.release with buses := a.release.buses ++ [b] }

/-! ## Steps -/

/-- The first bus that can take a step takes it. -/
def eachBus (a : Application) (f : Scene → Bus → Option (Scene × Bus)) : Option Application :=
  (List.range a.buses.length).findSome? fun i => do
    let (scene, b) ← f a.scene (← a.buses[i]?)
    return { a with scene, buses := a.buses.set i b }

/-- The buses hear what the broker has to tell. -/
def newsStep? (a : Application) : Option Application :=
  match a.scene.broker.news with
  | [] => none
  | news :: rest =>
    let scene := { a.scene with broker := { a.scene.broker with news := rest } }
    some { a with scene, buses := a.buses.map fun b => b.hearNews scene news }

/-- The channels that somebody holds on to: the application, or a bus. -/
def channelsInUse (a : Application) : List Amqp.ChannelId :=
  a.channels ++ a.buses.flatMap Bus.channels

/-- Whether somebody holds on to a link: a bus that is alive uses it, or a channel in use is on
it. -/
def holdsLink (a : Application) (link : Amqp.LinkId) : Bool :=
  a.channelsInUse.any (a.scene.broker.isOn link) ||
    a.buses.any fun b => b.isAlive && b.connection.link == some link

/-- A channel that nobody uses, and whose deliveries no worker takes, is closed; a subscription on
it is cancelled first. -/
def closeUnusedStep? (a : Application) : Option Application := do
  let broker := a.scene.broker
  let inUse := a.channelsInUse ++ a.buses.flatMap Bus.streams
  let channel ← (List.range broker.channels.length).find? fun channel =>
    broker.channelOpen channel && !inUse.contains channel
  let method := match broker.subscriptions.find? fun q => q.channel == channel && q.active with
    | some q => .cancel q.tag
    | none => .closeChannel 200 "OK"
  let (_, broker) := broker.request channel method
  return { a with scene := { a.scene with broker } }

/-- A link that nobody holds on to is hung up. -/
def hangUpStep? (a : Application) : Option Application := do
  let link ← (List.range a.scene.broker.links.length).find? fun link =>
    a.scene.broker.linkAlive link && !a.holdsLink link
  let (_, broker) := a.scene.broker.hangUp link 200 "OK"
  return { a with scene := { a.scene with broker } }

/-- The next step. -/
def step? (a : Application) : Option Application :=
  (a.eachBus Bus.promptStep?).or <|
  a.newsStep?.or <|
  (a.eachBus Bus.backgroundStep?).or <|
  a.closeUnusedStep?.or <|
  a.hangUpStep?.or <|
  a.eachBus Bus.brokerStep?

/-- Takes steps until none can be taken, or so many are taken. -/
def settle : (fuel : Nat) → Application → Application
  | 0, a => a
  | fuel + 1, a =>
    match a.step? with
    | none => a
    | some a => settle fuel a

/-- The time at which the first of the waits under way ends. -/
def wakeTime? (a : Application) : Option Nat :=
  a.buses.foldl (fun time b => earlier time (b.wakeTime? a.scene)) none

/-- The application once the clock shows a time. -/
def notBefore (a : Application) (time : Nat) : Application :=
  { a with scene := a.scene.notBefore time }

/-- Goes on until something holds, or nothing is under way. -/
def runUntil (p : Application → Bool) : (fuel : Nat) → Application → Application
  | 0, a => a
  | fuel + 1, a =>
    if p a then a
    else
      match a.step? with
      | some a => runUntil p fuel a
      | none =>
        match a.wakeTime? with
        | some time => runUntil p fuel (a.notBefore time)
        | none => a

/-- Lets the clock run to a time. -/
def runTo (time : Nat) : (fuel : Nat) → Application → Application
  | 0, a => a
  | fuel + 1, a =>
    match a.step? with
    | some a => runTo time fuel a
    | none =>
      match a.wakeTime? with
      | some t => if t ≤ time then runTo time fuel (a.notBefore t) else a.notBefore time
      | none => a.notBefore time

/-! ## What an application does -/

/-- Begins calls on consumers of a bus, and waits for the result. -/
def callOn (fuel : Nat) (a : Application) (i : Nat) (begin : Bus → Bus × Nat) :
    Option Outcome × Application :=
  match a.buses[i]? with
  | none => (none, a)
  | some b =>
    let (b, series) := begin b
    let result (a : Application) : Option Outcome := (a.buses[i]?).bind (·.result? series)
    let a := runUntil (fun a => (result a).isSome) fuel { a with buses := a.buses.set i b }
    (result a, a)

/-- Begins calls on consumers of the bus in use, and waits for the result. -/
def call (fuel : Nat) (a : Application) (begin : Bus → Bus × Nat) :
    Option Outcome × Application :=
  match a.current? with
  | some i => a.callOn fuel i begin
  | none => (none, a)

/-- A connection without the bus it was meant for. -/
def bare (connection : Connection) : Bus :=
  { connection, producer := .ofSettings connection.settings [] [], isBuilt := false }

/-- Dials the broker and builds a bus that is not started. -/
def openBus (a : Application) (settings : Settings) (registry : Registry)
    (consumers : List ConsumerSettings) (producers : List ProducerSettings) :
    Except BuildFailure Unit × Application :=
  match Connection.establish settings a.scene with
  | (.error e, scene) => (.error (.refused e), { a with scene })
  | (.ok connection, scene) =>
    let a := { a with scene }
    match Bus.ofSettings connection registry consumers producers with
    | .ok b => (.ok (), a.adopt b)
    | .error e => (.error e, a.adopt (bare connection))

/-- Dials the broker, builds a bus, and starts it if the settings say so. Where anything fails the
application goes on with the bus it had, and nobody takes care of what there is of the new one.
There is no result as long as the start has none. -/
def connect (fuel : Nat) (a : Application) (settings : Settings) (registry : Registry)
    (consumers : List ConsumerSettings) (producers : List ProducerSettings) (token : Token) :
    Option (Except BuildFailure Unit) × Application :=
  match Connection.establish settings a.scene with
  | (.error e, scene) => (some (.error (.refused e)), { a with scene })
  | (.ok connection, scene) =>
    let a := { a with scene }
    match Bus.ofSettings connection registry consumers producers with
    | .error e =>
      (some (.error e), { a with buses := a.buses ++ [{ bare connection with isHeld := false }] })
    | .ok b =>
      if settings.autoStart then
        let i := a.buses.length
        let (result, a) := { a with buses := a.buses ++ [b] }.callOn fuel i (·.start token)
        match result with
        | some (.error e) =>
          (some (.error (.refused e)),
            { a with buses := a.buses.modify i fun b => { b with isHeld := false } })
        | some (.ok _) =>
          (some (.ok ()), { a with buses := a.buses.mapIdx fun k b => { b with isHeld := k == i } })
        | none => (none, a)
      else (some (.ok ()), a.adopt b)

/-- Publishes a message on the bus. -/
def publish (a : Application) (message : Message) (metadata : Metadata) (exchange : Option String) :
    Option Outcome × Application :=
  match a.bus?.filter Bus.isBuilt with
  | none => (none, a)
  | some b =>
    let (result, b, scene) := b.publish message metadata exchange a.scene
    (some result, { a.modify fun _ => b with scene })

/-- Asks the connection of the bus for something, and waits for the result. -/
def onConnection {α : Type} (a : Application)
    (f : Connection → Scene → α × Connection × Scene) : Option α × Application :=
  match a.bus? with
  | none => (none, a)
  | some b =>
    let (result, connection, scene) := f b.connection a.scene
    (some result, { a.modify fun b => { b with connection } with scene })

/-- Opens a channel and keeps it. -/
def openChannel (a : Application) : Option Outcome × Application :=
  match a.bus? with
  | none => (none, a)
  | some b =>
    match b.connection.openChannel a.scene with
    | (.ok channel, scene) => (some (.ok ()), { a with scene, channels := a.channels ++ [channel] })
    | (.error e, scene) => (some (.error e), { a with scene })

/-- The broker sends something to the channel of the last subscription of a queue; whether there was
ever one. What comes to a number that the client does not know is the end of the link. -/
def sendToLast (a : Application) (queue : String)
    (take : Amqp.QueueSubscription → Nat → Amqp.ChannelId → Application) : Bool × Application :=
  match a.scene.broker.lastSubscription? queue with
  | none => (false, a)
  | some (q, place) =>
    (true,
      match a.scene.broker.arrival q.channel with
      | .lost => a
      | .astray link => { a with scene := { a.scene with broker := a.scene.broker.cut link } }
      | .at channel => take q place channel)

/-- The application after a delivery was handed to the workers of a channel. -/
def handOver (a : Application) (channel : Amqp.ChannelId) (item : StreamItem) : Application :=
  let hand (c : Consumer) : Consumer :=
    match c.held.find? (·.channel == channel) with
    | some h => ((c.step a.scene (.work (.arrive h.pool item))).map Prod.snd).getD c
    | none => c
  { a with buses := a.buses.map fun b => { b with consumers := b.consumers.map hand } }

/-- A delivery of the broker to the last subscription of a queue; whether there was ever one. A
channel that has taken over the number passes over it. -/
def deliver (a : Application) (queue : String) (d : Delivery) : Bool × Application :=
  a.sendToLast queue fun q place channel =>
    let tag := (q.delivered + 1).toUInt64
    let broker : Amqp.Broker := { a.scene.broker with
      subscriptions :=
        a.scene.broker.subscriptions.set place { q with delivered := q.delivered + 1 } }
    let a := { a with scene := { a.scene with broker } }
    if channel = q.channel ∧ broker.subscribed q then
      a.handOver channel (.delivery { d with tag } (.channel channel tag))
    else a

/-- The broker closes the channel of the last subscription of a queue; whether there was ever
one. -/
def closeChannel (a : Application) (queue : String) (code : Nat) : Bool × Application :=
  a.sendToLast queue fun _ _ channel =>
    { a with scene := { a.scene with broker := a.scene.broker.closeChannel channel code } }

end Application

end MessageBus
