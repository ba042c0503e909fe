import MessageBus.Amqp.Link
import MessageBus.Amqp.Method

/-!
# A broker

A broker in memory: it records the requests it receives, and answers every one of them unless a rule
of its script says otherwise. Channels live on links, subscriptions on channels. A request on a
channel that has ended fails without reaching the broker. What the broker does of its own accord is
queued as news for the client.
-/

set_option autoImplicit false

namespace MessageBus.Amqp

/-- What the broker does in place of an answer. -/
inductive Refusal where
  /-- It cuts the link. -/
  | cutLink
  /-- It closes the connection. -/
  | closeConnection
  /-- It closes the channel with a reply code. -/
  | closeChannel (code : Nat)
deriving DecidableEq, Inhabited, Repr

/-- The reply codes that stand for an error. A channel that is closed with another one is closed as
well, but nobody takes that for a failure. -/
def errorCodes : List Nat :=
  [311, 312, 313, 320, 402, 403, 404, 405, 406, 501, 502, 503, 504, 505, 506, 530, 540, 541]

/-- A rule of a broker's script: after some matches it refuses so many requests. -/
structure Rule where
  method : String
  subject : Option String := none
  skip : Nat := 0
  times : Nat := 1
  refusal : Refusal
deriving DecidableEq, Inhabited, Repr

/-- Whether a rule is about a method. -/
def Rule.covers (r : Rule) (m : Method) : Bool :=
  r.method == m.wireName &&
    match r.subject with
    | none => true
    | some s => m.subject? == some s

/-- A subscription to a queue. -/
structure QueueSubscription where
  queue : String
  channel : ChannelId
  tag : String
  /-- Whether deliveries still reach the client. -/
  active : Bool := true
  /-- How many deliveries it has had. -/
  delivered : Nat := 0
deriving DecidableEq, Inhabited, Repr

/-- What the client hears from the broker. -/
inductive News where
  /-- A link is gone that the client had opened and not closed. -/
  | linkLost (link : LinkId)
  /-- The broker closed a channel for an error. -/
  | channelClosed (channel : ChannelId)
deriving DecidableEq, Inhabited, Repr

/-- A broker, with what it recorded. -/
structure Broker where
  /-- Whether new links are refused. -/
  refusing : Bool := false
  rules : List Rule := []
  links : List Link := []
  channels : List Channel := []
  subscriptions : List QueueSubscription := []
  frames : List Frame := []
  news : List News := []
deriving Inhabited

namespace Broker

/-- Whether a link is alive. -/
def linkAlive (b : Broker) (link : LinkId) : Bool := ((b.links[link]?).map Link.isAlive).getD false

/-- How a channel stands, if there is one. -/
def stage? (b : Broker) (channel : ChannelId) : Option ChannelStage :=
  (b.channels[channel]?).map Channel.stage

/-- Whether requests on a channel reach the broker. -/
def channelOpen (b : Broker) (channel : ChannelId) : Bool := b.stage? channel == some .live

/-- Whether a channel is live and on a link. -/
def isOn (b : Broker) (link : LinkId) (channel : ChannelId) : Bool :=
  (b.channels[channel]?).any fun c => c.link == link && c.stage == .live

/-- Whether deliveries of a subscription still reach the client. -/
def subscribed (b : Broker) (s : QueueSubscription) : Bool := s.active && b.channelOpen s.channel

/-- Records a request. -/
def record (b : Broker) (channel : Option ChannelId) (method : Method) : Broker :=
  { b with frames := b.frames ++ [⟨channel, method⟩] }

/-- The refusal of the first rule that is in force for a method, and the rules after it was
asked. -/
def consult (m : Method) : List Rule → Option Refusal × List Rule
  | [] => (none, [])
  | r :: rest =>
    if r.covers m then
      match r.skip, r.times with
      | 0, times + 1 => (some r.refusal, { r with times } :: rest)
      | 0, 0 => let (refusal, rest) := consult m rest; (refusal, r :: rest)
      | skip + 1, _ => let (refusal, rest) := consult m rest; (refusal, { r with skip } :: rest)
    else
      let (refusal, rest) := consult m rest
      (refusal, r :: rest)

/-- Ends a link and the channels on it. -/
def endLink (b : Broker) (link : LinkId) (stage : ChannelStage) : Broker :=
  { b with
    links := b.links.modify link fun l => { l with isAlive := false }
    channels := b.channels.map fun c =>
      if c.link = link ∧ c.stage = .live then { c with stage } else c }

/-- Cuts a link; the client hears of it. -/
def cut (b : Broker) (link : LinkId) : Broker :=
  if b.linkAlive link then
    let b := b.endLink link .failed
    { b with news := b.news ++ [.linkLost link] }
  else b

/-- Cuts every link. -/
def cutAll (b : Broker) : Broker :=
  (List.range b.links.length).foldl cut b

/-- Ends a channel. -/
def endChannel (b : Broker) (channel : ChannelId) (stage : ChannelStage) : Broker :=
  { b with channels := b.channels.modify channel fun c => { c with stage } }

/-- Closes a channel; the client hears of it if the code stands for an error. -/
def closeChannel (b : Broker) (channel : ChannelId) (code : Nat) : Broker :=
  if b.channelOpen channel then
    if errorCodes.contains code then
      let b := b.endChannel channel .failed
      { b with news := b.news ++ [.channelClosed channel] }
    else b.endChannel channel .finished
  else b

/-- Carries out a refusal of a request on a channel. -/
def refuse (b : Broker) (channel : ChannelId) (refusal : Refusal) : Broker :=
  match refusal with
  | .closeChannel code => b.closeChannel channel code
  | _ =>
    match b.channels[channel]? with
    | none => b
    | some c => b.cut c.link

/-- What a request that is granted changes. -/
def grant (b : Broker) (channel : ChannelId) : Method → Broker
  | .closeChannel _ _ => b.endChannel channel .finished
  | .consume queue tag _ =>
    { b with subscriptions := b.subscriptions ++ [{ queue, channel, tag }] }
  | .cancel _ =>
    { b with
      subscriptions := b.subscriptions.map fun s =>
        if s.channel = channel then { s with active := false } else s }
  | _ => b

/-- A request on a channel: whether the client takes it for granted, and the broker after it. -/
def request (b : Broker) (channel : ChannelId) (method : Method) : Bool × Broker :=
  if b.channelOpen channel then
    let (refusal, rules) := consult method b.rules
    let b := { b.record (some channel) method with rules }
    match refusal with
    | none => (true, b.grant channel method)
    | some refusal => (!method.awaitsAnswer, b.refuse channel refusal)
  else (false, b)

/-- The live channel that goes by a number on a link. -/
def numbered? (b : Broker) (link : LinkId) (number : Nat) : Option ChannelId :=
  b.channels.findIdx? fun c => c.link = link ∧ c.number = number ∧ c.stage = .live

/-- A request that goes by the number of a channel, which may have ended. A channel that failed
refuses it. On a link that is alive the channel that has the number now takes it, if there is one.
Where a link was closed in order nobody ever answers. -/
def requestByNumber (b : Broker) (channel : ChannelId) (method : Method) : Option (Bool × Broker) :=
  match b.channels[channel]? with
  | none => some (false, b)
  | some c =>
    if c.stage = .failed then some (false, b)
    else if b.linkAlive c.link then
      match b.numbered? c.link c.number with
      | some holder => some (b.request holder method)
      | none => some (false, b)
    else none

/-- Opens a channel on a link, unless there is no number for it. Channels that were refused are
counted too. A channel that is not open cannot be closed either: a client that is told so takes the
link for broken. -/
def openChannel (b : Broker) (link : LinkId) : Option ChannelId × Broker :=
  match b.links[link]? with
  | none => (none, b)
  | some l =>
    if l.isAlive then
      let taken := (b.channels.filter fun c => c.link = link ∧ c.stage = .live).map Channel.number
      let (number, l) := l.takeNumber taken
      let b := { b with links := b.links.set link l }
      match number with
      | none => (none, b)
      | some number =>
        let channel := b.channels.length
        let (refusal, rules) := consult .openChannel b.rules
        let b := { b.record (some channel) .openChannel with
          rules, channels := b.channels ++ [{ link, number }] }
        match refusal with
        | none => (some channel, b)
        | some _ => (none, b.cut link)
    else (none, b)

/-- Asks for a new link with so many channels at most, or as many as there are numbers: it is up if
neither of the two requests of the greeting is refused. -/
def dial (b : Broker) (login : Login) (name vhost : String) (channelMax : Option Nat) :
    Option LinkId × Broker :=
  if b.refusing then (none, b)
  else
    let greet (b : Broker) (m : Method) : Bool × Broker :=
      let (refusal, rules) := consult m b.rules
      (refusal.isNone, { b.record none m with rules })
    let (greeted, b) := greet b (.startOk login name)
    if !greeted then (none, b)
    else
      let (opened, b) := greet b (.openConnection vhost)
      if !opened then (none, b)
      else
        let link : Link := match channelMax with
          | some channelMax => { channelMax }
          | none => {}
        (some b.links.length, { b with links := b.links ++ [link] })

/-- Closes a link from the side of the client: whether the broker agreed. -/
def hangUp (b : Broker) (link : LinkId) (code : Nat) (text : String) : Bool × Broker :=
  if b.linkAlive link then
    let (refusal, rules) := consult (.closeConnection code text) b.rules
    let b := { b.record none (.closeConnection code text) with rules }
    match refusal with
    | none => (true, b.endLink link .finished)
    | some _ => (false, b.cut link)
  else (false, b)

/-- The last subscription to a queue, with its number. -/
def lastSubscription? (b : Broker) (queue : String) : Option (QueueSubscription × Nat) :=
  b.subscriptions.zipIdx.reverse.find? fun (s, _) => s.queue == queue

/-- Where something arrives that the broker sends by the number of a channel. -/
inductive Arrival where
  /-- The link is gone. -/
  | lost
  /-- The client knows no channel of that number. -/
  | astray (link : LinkId)
  | at (channel : ChannelId)
deriving DecidableEq, Inhabited, Repr

/-- Where something arrives that the broker sends to a channel. -/
def arrival (b : Broker) (channel : ChannelId) : Arrival :=
  match b.channels[channel]? with
  | none => .lost
  | some c =>
    if b.linkAlive c.link then
      match b.numbered? c.link c.number with
      | some holder => .at holder
      | none => .astray c.link
    else .lost

end Broker

end MessageBus.Amqp
