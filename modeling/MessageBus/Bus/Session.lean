import MessageBus.Bus.Application

/-!
# Sessions

A session is an application that is driven step by step: buses are opened, started and stopped,
messages are published, and the broker delivers, refuses and falls silent. Each step has an answer.
The effects of a step may take time to arrive; an `Expectation` says what to wait for.
-/

set_option autoImplicit false

namespace MessageBus

/-- What the buses of a session are made of. -/
structure Plan where
  settings : Settings := {}
  registry : Registry
  consumers : List ConsumerSettings := []
  producers : List ProducerSettings := []

/-- An application that is driven step by step. -/
structure Session where
  plan : Plan
  app : Application := {}
  /-- The tokens of the session, by the numbers that steps know them under. -/
  tokens : List (Nat × Token) := [(0, 0)]
  /-- The announced reconnects, as a receiver of the session's own has them. -/
  seen : Backlog := {}
  /-- Whether a call on all consumers is one of the bus, which it reports. -/
  callsBus : Bool := true

namespace Session

/-- What is done in a session. -/
inductive Step where
  /-- Dials and builds a bus that is not started. -/
  | openBus
  /-- Dials, builds a bus and starts it below a token, if the settings say so. -/
  | connectBus (token : Nat)
  /-- Starts one consumer or all, below a token. -/
  | start (token : Nat) (consumer : Option String)
  /-- Stops one consumer or all. -/
  | stop (consumer : Option String)
  /-- Begins to stop all consumers and does not wait. -/
  | stopLater
  | cancel (token : Nat)
  /-- Announces so many reconnects. -/
  | announce (times : Nat)
  /-- Counts the announced reconnects. -/
  | countAnnounced
  /-- The link reports a failure. -/
  | failLink
  | startLoop
  | connect
  | close
  /-- Opens a channel and keeps it. -/
  | openChannel
  | health
  | isConnected
  /-- The settings of the connection. -/
  | settings
  /-- Adds a handler to one consumer or all. -/
  | connectHandler (consumer : Option String) (handler : Handler)
  /-- Adds an observer of handled messages. -/
  | observeHandled (name : String)
  /-- Adds an observer of published messages. -/
  | observePublished (name : String)
  | publish (message : Message) (metadata : Metadata) (exchange : Option String)
  /-- Where messages of a type go. -/
  | target (messageType : String) (exchange : Option String)
  | consumer (name : String)
  | consumers
  /-- The broker delivers to the last subscription of a queue. -/
  | deliver (queue : String) (delivery : Delivery)
  /-- The broker closes the channel of the last subscription of a queue. -/
  | closeChannel (queue : String) (code : Nat)
  /-- All links are cut. -/
  | cutLinks
  /-- The broker takes no links any more, or takes them again. -/
  | refuse (on : Bool)
  /-- The broker follows another rule behind the others. -/
  | addRule (rule : Amqp.Rule)
  /-- Nothing but waiting. -/
  | wait

/-- What a step answers. -/
inductive Answer where
  | nothing
  /-- There is no bus, or no consumer of a name on it. -/
  | noBus
  | outcome (result : Outcome)
  | flag (b : Bool)
  | number (n : Nat)
  | health (result : Outcome)
  | settings (settings : Settings)
  | target (target : PublishTarget)
  | consumer (index : Nat) (name messageType : String)
  | names (names : List String)
  /-- Nothing can be answered: a bus was to be built with more permits than there can be. -/
  | tooManyPermits

/-- The answer to the making of a bus. -/
def Answer.ofBuild : Except BuildFailure Unit → Answer
  | .ok _ => .outcome (.ok ())
  | .error (.refused e) => .outcome (.error e)
  | .error .tooManyPermits => .tooManyPermits

/-- The answer to what has a result, if there is one. -/
def Answer.ofResult : Option Outcome → Answer
  | some result => .outcome result
  | none => .nothing

/-- A bound on the steps and waits of one run; runs that end need far fewer. -/
def enough : Nat := 100000

/-! ## Views -/

/-- The bus in hand. -/
def bus? (s : Session) : Option Bus := s.app.bus?

/-- The consumers of the bus in hand. -/
def consumersOfBus (s : Session) : List Consumer := (s.bus?.map Bus.consumers).getD []

/-- The stages of the consumers. -/
def statuses (s : Session) : List ConsumerStatus := s.consumersOfBus.map Consumer.status

/-- Whether the connection of the bus in hand is up. -/
def isConnected (s : Session) : Bool := (s.bus?.map fun b => b.connection.isConnected).getD false

/-- Whether the connection of the bus in hand was closed. -/
def isClosed (s : Session) : Bool := (s.bus?.map fun b => b.connection.isClosed).getD false

/-- The consumers that a step is about: the one of a name, or all. -/
def chosen (b : Bus) : Option String → List Nat
  | some name => (b.consumer? name).toList
  | none => List.range b.consumers.length

/-! ## Steps -/

/-- The session with its bus changed. -/
def modify (s : Session) (f : Bus → Bus) : Session := { s with app := s.app.modify f }

/-- The session with its connection changed. -/
def modifyConnection (s : Session) (f : Connection → Connection) : Session :=
  s.modify fun b => { b with connection := f b.connection }

/-- The session with the processor of a consumer changed. -/
def modifyProcessor (f : Processor → Processor) (b : Bus) (i : Nat) : Bus :=
  { b with
    consumers := b.consumers.modify i fun c =>
      { c with crew := { c.crew with processor := f c.crew.processor } } }

/-- The session with its broker changed. -/
def modifyBroker (s : Session) (f : Amqp.Broker → Amqp.Broker) : Session :=
  { s with app := { s.app with scene := { s.app.scene with broker := f s.app.scene.broker } } }

/-- The token of a number; a number that was not used before gets a token of its own. -/
def token (s : Session) (n : Nat) : Token × Session :=
  match s.tokens.lookup n with
  | some t => (t, s)
  | none =>
    let (scene, t) := s.app.scene.makeToken none
    (t, { s with app := { s.app with scene }, tokens := (n, t) :: s.tokens })

/-- Begins calls on the consumers a step is about and waits for the result. -/
def call (s : Session) (kind : SeriesKind) (consumer : Option String) : Answer × Session :=
  if consumer.any fun name => (s.bus?.bind (·.consumer? name)).isNone then (.noBus, s)
  else
    let (result, app) := s.app.call enough fun b =>
      b.begin { kind, todo := chosen b consumer, isReported := s.callsBus && consumer.isNone }
    ((result.map .outcome).getD .noBus, { s with app })

/-- Asks the connection for something and waits for the result. -/
def onConnection (s : Session) (f : Connection → Scene → Outcome × Connection × Scene) :
    Answer × Session :=
  let (result, app) := s.app.onConnection f
  (.ofResult result, { s with app })

/-- The consumer of a name, as an answer. -/
def findConsumer (s : Session) (name : String) : Answer :=
  match s.bus?.bind (·.consumer? name) with
  | none => .nothing
  | some i =>
    .consumer i name (((s.consumersOfBus[i]?).map fun c => c.settings.messageType).getD "")

/-- Takes a step. -/
def perform (s : Session) : Step → Answer × Session
  | .openBus =>
    let (result, app) := s.app.openBus s.plan.settings s.plan.registry s.plan.consumers
      s.plan.producers
    (.ofBuild result, { s with app })
  | .connectBus n =>
    let (token, s) := s.token n
    let (result, app) := s.app.connect enough s.plan.settings s.plan.registry s.plan.consumers
      s.plan.producers token
    ((result.map .ofBuild).getD .nothing, { s with app })
  | .start n consumer =>
    let (token, s) := s.token n
    s.call (.start token) consumer
  | .stop consumer => s.call .stop consumer
  | .stopLater =>
    (.nothing, s.modify fun b => if b.isBuilt then (b.beginOnAll .stop true).1 else b)
  | .cancel n =>
    let (token, s) := s.token n
    (.nothing, { s with app := { s.app with scene := s.app.scene.cancel token } })
  | .announce n =>
    let announced := s.modify (n.repeat fun b => b.announce s.app.scene)
    (.nothing, { announced with seen := s.seen.pushAll n })
  | .countAnnounced => (.number s.seen.signalsBeforeLag, { s with seen := s.seen.skim })
  | .failLink =>
    (.nothing, s.modifyConnection (·.perform s.app.scene (.report Connection.lostReason)))
  | .startLoop => (.nothing, s.modifyConnection (·.perform s.app.scene .startLoop))
  | .connect => s.onConnection Connection.connect
  | .close => s.onConnection Connection.close
  | .openChannel =>
    let (result, app) := s.app.openChannel
    (.ofResult result, { s with app })
  | .health => ((s.bus?.map fun b => .health b.connection.health).getD .nothing, s)
  | .isConnected => (.flag s.isConnected, s)
  | .settings => ((s.bus?.map fun b => .settings b.connection.settings).getD .nothing, s)
  | .connectHandler consumer h =>
    (.nothing, s.modify fun b =>
      (chosen b consumer).foldl (modifyProcessor (·.connectHandler h)) b)
  | .observeHandled name => (.nothing, s.modify (·.addObserver name))
  | .observePublished name =>
    (.nothing, s.modify fun b => { b with producer := b.producer.addObserver name })
  | .publish message metadata exchange =>
    let (result, app) := s.app.publish message metadata exchange
    (.ofResult result, { s with app })
  | .target messageType exchange =>
    ((s.bus?.map fun b => .target (b.producer.target messageType exchange)).getD .nothing, s)
  | .consumer name => (s.findConsumer name, s)
  | .consumers => (.names (s.consumersOfBus.map Consumer.name), s)
  | .deliver queue d =>
    let (taken, app) := s.app.deliver queue d
    (.flag taken, { s with app })
  | .closeChannel queue code =>
    let (taken, app) := s.app.closeChannel queue code
    (.flag taken, { s with app })
  | .cutLinks => (.nothing, s.modifyBroker Amqp.Broker.cutAll)
  | .refuse on => (.nothing, s.modifyBroker fun b => { b with refusing := on })
  | .addRule rule => (.nothing, s.modifyBroker fun b => { b with rules := b.rules ++ [rule] })
  | .wait => (.nothing, s)

/-! ## Beginnings -/

/-- A session whose broker takes no links. -/
def unreachable (plan : Plan) (scene : Scene) : Session where
  plan
  app := { scene := { scene with broker := { scene.broker with refusing := true } } }

/-- The session with a bus in hand. -/
def adopt (s : Session) (b : Bus) : Session := { s with app := s.app.adopt b }

/-- A session with the parts of a bus whose connection was never dialed. They are looked at by
themselves, so nothing is reported of a bus. -/
def undialed (plan : Plan) (scene : Scene) : Except BuildFailure Session :=
  (Bus.ofSettings { settings := plan.settings } plan.registry plan.consumers plan.producers).map
    ({ unreachable plan scene with callsBus := false }.adopt ·)

/-- A session with a connection that was never dialed, and nothing on it. -/
def unconnected (plan : Plan) (scene : Scene) : Session :=
  (unreachable plan scene).adopt (Application.bare { settings := plan.settings })

/-! ## Waiting for effects -/

/-- What is expected of a step before the next one is taken. -/
structure Expectation where
  /-- How many requests reach the broker. -/
  frames : Nat := 0
  /-- How many lines the journal grows by. -/
  journal : Nat := 0
  /-- The stage that all consumers reach. -/
  status : Option String := none
  /-- Whether the connection is up. -/
  connected : Option Bool := none
  /-- How many milliseconds go by. -/
  pause : Option Nat := none
  /-- Whether anything is expected at all. -/
  isGiven : Bool := false

/-- Whether what was expected has come. -/
def meets (s : Session) (e : Expectation) : Bool :=
  e.frames ≤ s.app.scene.broker.frames.length && e.journal ≤ s.app.scene.journal.length &&
    (match e.status with
      | some name => s.statuses.all (·.label == name)
      | none => true) &&
    (match e.connected with
      | some b => s.isConnected == b
      | none => true)

/-- Whether a step waits for an answer of the broker, or for nothing but time. -/
def Step.talks : Step → Bool
  | openBus | connectBus _ | start _ _ | stop _ | publish _ _ _ | close | connect | openChannel
  | wait => true
  | _ => false

/-- Goes on until nothing can go on without a wait. -/
def settle (s : Session) : Session := { s with app := s.app.settle enough }

/-- Lets some milliseconds go by. -/
def pass (s : Session) (millis : Nat) : Session :=
  { s with app := s.app.runTo (s.app.scene.now + millis) enough }

/-- Lets the effects of a step arrive. A step that expects nothing and waits for nobody goes by in
no time. -/
def await (s : Session) (step : Step) (e : Expectation) : Session :=
  let s := if e.isGiven || step.talks then s.settle else s
  let met (a : Application) : Bool := { s with app := a }.meets e
  let s := if e.isGiven then { s with app := s.app.runUntil met enough } else s
  match e.pause with
  | some millis => s.pass millis
  | none => s

/-- The session with nothing to report. -/
def reported (s : Session) : Session :=
  { s with app := { s.app with scene := s.app.scene.reported } }

end Session

end MessageBus
