import MessageBus.Connection
import MessageBus.Producer.Envelope
import MessageBus.Producer.Settings

/-!
# Producers

A producer publishes messages on one channel, which it opens when it first needs one and again when
the old one is dead. On each channel an exchange is declared before the first message goes out to
it; a declaration that fails is tried again by the next publish. `Producer.send` works over any way
to the broker (`Wire`), so what it does is settled for every pattern of failures.
-/

set_option autoImplicit false

namespace MessageBus

/-- A way to the broker, with what is behind it as a state. -/
structure Wire (σ : Type) where
  openChannel : σ → Except BusError Amqp.ChannelId × σ
  /-- Whether a channel is still open. -/
  isOpen : σ → Amqp.ChannelId → Bool
  /-- Makes a request on a channel; whether it is granted. -/
  request : σ → Amqp.ChannelId → Amqp.Method → Bool × σ

/-- Where and how a message is published. -/
structure PublishTarget where
  exchange : Exchange
  routingKey : String
  persistent : Bool
deriving Inhabited

/-- A channel of a producer, with the exchanges declared on it. -/
structure ProducerChannel where
  channel : Amqp.ChannelId
  declared : List String := []
deriving DecidableEq, Inhabited, Repr

/-- A producer. -/
structure Producer where
  settings : List ProducerSettings
  /-- The application id of its messages. -/
  appId : String
  /-- Whether messages without settings of their own are kept across restarts. -/
  persistent : Bool
  channel : Option ProducerChannel := none
  /-- Who is told of published messages. -/
  observers : List String := []
deriving Inhabited

namespace Producer

variable {σ : Type}

/-- A producer for a connection. -/
def ofSettings (connection : Settings) (settings : List ProducerSettings)
    (observers : List String) : Producer where
  settings
  appId := connection.appName
  persistent := connection.persisted
  observers

/-- The first settings that cannot be used give the error. -/
def check (r : Registry) (settings : List ProducerSettings) : Outcome :=
  settings.forM fun s => s.check r

/-- Adds an observer behind the others. -/
def addObserver (p : Producer) (name : String) : Producer :=
  { p with observers := p.observers ++ [name] }

/-- The settings of a message type; the last ones win, and a type without any has the derived
ones. -/
def settingsOf (p : Producer) (messageType : String) : ProducerSettings :=
  (p.settings.reverse.find? (·.messageType == messageType)).getD
    { ProducerSettings.ofMessageType messageType with persisted := p.persistent }

/-- Where messages of a type go; an exchange that is named takes the place of the configured
name. -/
def target (p : Producer) (messageType : String) (exchange : Option String) : PublishTarget :=
  let s := p.settingsOf messageType
  { exchange := match exchange with
      | some name => s.exchange.withName name
      | none => s.exchange
    routingKey := s.routingKey
    persistent := s.persisted }

/-- The channel in use, or a new one if there is none or it is dead. -/
def ensureChannel (w : Wire σ) (p : Producer) (s : σ) :
    Except BusError ProducerChannel × Producer × σ :=
  match p.channel.filter fun c => w.isOpen s c.channel with
  | some c => (.ok c, p, s)
  | none =>
    let (opened, s) := w.openChannel s
    match opened with
    | .ok channel => (.ok { channel }, { p with channel := some { channel } }, s)
    | .error e => (.error e, p, s)

/-- Declares an exchange on the channel in use, unless that was done or it has no name. -/
def ensureExchange (w : Wire σ) (p : Producer) (c : ProducerChannel) (exchange : Exchange) (s : σ) :
    Outcome × Producer × σ :=
  if exchange.name.isEmpty || c.declared.contains exchange.name then (.ok (), p, s)
  else
    let (granted, s) := w.request s c.channel (.declareExchange exchange.name exchange)
    if granted then
      (.ok (), { p with channel := some { c with declared := c.declared ++ [exchange.name] } }, s)
    else (.error (.exchangeDeclaration exchange.name), p, s)

/-- The detail of the error of a publish that did not reach the broker. -/
def unsentError : BusError := .publishing "the broker cannot be reached"

/-- Sends a message off. -/
def send (w : Wire σ) (p : Producer) (target : PublishTarget) (body : Bytes)
    (properties : Amqp.Properties) (s : σ) : Outcome × Producer × σ :=
  let (channel, p, s) := p.ensureChannel w s
  match channel with
  | .error e => (.error e, p, s)
  | .ok c =>
    let (declared, p, s) := p.ensureExchange w c target.exchange s
    match declared with
    | .error e => (.error e, p, s)
    | .ok _ =>
      let (granted, s) :=
        w.request s c.channel (.publish target.exchange.name target.routingKey properties body)
      (if granted then .ok () else .error unsentError, p, s)

/-! ## In a scene -/

/-- The name of the tracer of publishes. -/
def tracingScope : String := "amqp producer"

/-- The way to the broker over a connection. -/
def wire (c : Connection) : Wire Scene where
  openChannel := c.openChannel
  isOpen s channel := s.broker.channelOpen channel
  request s channel method :=
    let (granted, broker) := s.broker.request channel method
    (granted, { s with broker })

/-- The headers of a message: its metadata, and the span under which it is published. -/
def headers (metadata : Metadata) (span : TraceContext) : Amqp.Table :=
  Tracing.inject span (metadata.writeTo .empty)

/-- The ids and the time for one publish. -/
def stamp (s : Scene) : Stamp × Scene :=
  let (messageId, s) := s.takeId
  let (correlationId, s) := s.takeId
  (⟨messageId, correlationId, s.seconds⟩, s)

/-- Tells the observers of a published message, in the order in which they were registered. -/
def notify (message : Message) (observers : List String) (s : Scene) : Scene :=
  observers.foldl (fun s observer => s.note 0 (.notified observer message)) s

/-- Publishes a message below a span. -/
def publish (p : Producer) (w : Wire Scene) (context : TraceContext) (message : Message)
    (metadata : Metadata) (exchange : Option String) (s : Scene) : Outcome × Producer × Scene :=
  let target := p.target message.name exchange
  match serialize message with
  | .error e => (.error e, p, (serializeLog message).foldl Scene.log s)
  | .ok encoded =>
    let (recorder, span) := s.recorder.start
      (.producer tracingScope context target.exchange.name target.routingKey)
    let (stamp, s) := stamp { s with recorder }
    let properties :=
      { envelope message metadata encoded.contentType p.appId target.persistent stamp with
        headers := some (headers metadata (some span)) }
    let (result, p, s) := p.send w target encoded.data properties s
    let s := { s with recorder := s.recorder.finish span (Outcome.error? result) }
    match result with
    | .error e => (.error e, p, s)
    | .ok _ =>
      let s := s.log (.debug "publisher" "message published"
        [("exchange", .text target.exchange.name), ("routing_key", .text target.routingKey),
          ("kind", .text message.name)])
      (.ok (), p, notify message p.observers s)

end Producer

end MessageBus
