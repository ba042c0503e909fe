import MessageBus.Proofs.Consumer.Dialogue
import MessageBus.Proofs.Producer.Envelope

/-!
# Where producers and consumers meet

A consumer resolves its names when it declares its topology, and a producer takes them from its
settings. With the same exchange and the same key on both sides a message reaches the queue of the
consumer if the names are given, or if both sides were left to their defaults. An empty name is
derived by the consumer alone, so there the two sides miss each other. Main statement:
`meeting_law`.
-/

set_option autoImplicit false

namespace MessageBus

/-! ## Names -/

namespace TopologyNames

theorem choose_of_ne {configured : String} (h : configured ≠ "") (derived : String) :
    choose configured derived = configured := by
  rw [choose, if_neg (by simpa using h)]

theorem choose_empty (derived : String) : choose "" derived = derived := rfl

theorem choose_self (name : String) : choose name name = name := by
  unfold choose
  split <;> rfl

/-- A configured name is what is chosen, unless it is empty and another one is derived. -/
theorem choose_eq_iff {configured derived : String} :
    choose configured derived = configured ↔ configured ≠ "" ∨ derived = "" := by
  by_cases h : configured = ""
  · subst h
    simp [choose_empty]
  · simp [choose_of_ne h, h]

end TopologyNames

namespace Exchange

theorem withName_inj {e : Exchange} {name name' : String} :
    e.withName name = e.withName name' ↔ name = name' :=
  ⟨fun h => congrArg Exchange.name h, fun h => by rw [h]⟩

end Exchange

/-! ## The two sides -/

namespace ConsumerSettings

/-- The exchange that a consumer declares, under the name it has resolved. -/
def resolvedExchange (s : ConsumerSettings) : Exchange := s.exchange.withName s.names.exchange

/-- The exchange of a consumer was left to the defaults. -/
def HasDefaultExchange (s : ConsumerSettings) : Prop :=
  s.exchange = { name := "", kind := .topic, durable := true } ∨
    s.exchange = (ofMessageType s.messageType).exchange

/-- The key of a consumer was left to the defaults. -/
def HasDefaultKey (s : ConsumerSettings) : Prop :=
  s.binding.routingKey = "" ∨
    s.binding.routingKey = (ofMessageType s.messageType).binding.routingKey

/-- A consumer and a producer have the same exchange, and it has a name; or both have their
default. -/
def SharesExchange (s : ConsumerSettings) (r : ProducerSettings) : Prop :=
  (r.exchange = s.exchange ∧ s.exchange.name ≠ "") ∨
    (r.exchange = (ProducerSettings.ofMessageType s.messageType).exchange ∧ s.HasDefaultExchange)

/-- A consumer and a producer have the same key, and it is not empty; or both have their default. -/
def SharesKey (s : ConsumerSettings) (r : ProducerSettings) : Prop :=
  (r.routingKey = s.binding.routingKey ∧ s.binding.routingKey ≠ "") ∨
    (r.routingKey = (ProducerSettings.ofMessageType s.messageType).routingKey ∧ s.HasDefaultKey)

/-- A request of a producer suits what a consumer asks for when it sets up a subscription: the same
exchange with the same arguments is declared, and to it and to the key the queue is bound. -/
def Suits (s : ConsumerSettings) (tag : String) : Amqp.Method → Prop
  | .declareExchange name exchange =>
    ∃ exchange', .declareExchange name exchange' ∈ s.setupMethods tag ∧
      exchange'.withName name = exchange
  | .publish name key _ _ =>
    ∃ queue arguments exchange, .bindQueue queue name key arguments ∈ s.setupMethods tag ∧
      .declareExchange name exchange ∈ s.setupMethods tag
  | _ => True

variable {s : ConsumerSettings} {r : ProducerSettings}

theorem names_exchange (s : ConsumerSettings) :
    s.names.exchange = TopologyNames.choose s.exchange.name (exchangeName s.messageType) := rfl

theorem names_routingKey (s : ConsumerSettings) :
    s.names.routingKey = TopologyNames.choose s.binding.routingKey (routingKey s.messageType) := rfl

/-- The same exchange is the one the consumer declares, unless it has no name and one is derived. -/
theorem eq_resolvedExchange_iff (h : r.exchange = s.exchange) :
    r.exchange = s.resolvedExchange ↔ s.exchange.name ≠ "" ∨ exchangeName s.messageType = "" := by
  rw [h, resolvedExchange, ← TopologyNames.choose_eq_iff, ← names_exchange, eq_comm]
  have hself : s.exchange.withName s.names.exchange = s.exchange.withName s.exchange.name ↔
      s.names.exchange = s.exchange.name := Exchange.withName_inj
  exact hself

theorem eq_names_routingKey_iff (h : r.routingKey = s.binding.routingKey) :
    r.routingKey = s.names.routingKey ↔
      s.binding.routingKey ≠ "" ∨ routingKey s.messageType = "" := by
  rw [h, names_routingKey, eq_comm, TopologyNames.choose_eq_iff]

theorem SharesExchange.eq_resolvedExchange (h : s.SharesExchange r) :
    r.exchange = s.resolvedExchange := by
  rcases h with ⟨hsame, hname⟩ | ⟨hderived, hdefault | hdefault⟩
  · exact (eq_resolvedExchange_iff hsame).2 (.inl hname)
  · rw [hderived, resolvedExchange, names_exchange, hdefault]
    rfl
  · rw [hderived, resolvedExchange, names_exchange, hdefault]
    have hname : TopologyNames.choose (exchangeName s.messageType) (exchangeName s.messageType) =
        exchangeName s.messageType := TopologyNames.choose_self _
    exact (congrArg (ofMessageType s.messageType).exchange.withName hname).symm

theorem SharesKey.eq_names_routingKey (h : s.SharesKey r) : r.routingKey = s.names.routingKey := by
  rcases h with ⟨hsame, hname⟩ | ⟨hderived, hdefault | hdefault⟩
  · exact (eq_names_routingKey_iff hsame).2 (.inl hname)
  · rw [hderived, names_routingKey, hdefault]
    rfl
  · rw [hderived, names_routingKey, hdefault]
    exact (TopologyNames.choose_self _).symm

/-- Requests for the exchange and the key of the consumer suit it. -/
theorem suits_of_isPart {target : PublishTarget} {properties : Amqp.Properties} {body : Bytes}
    {m : Amqp.Method} (hexchange : target.exchange = s.resolvedExchange)
    (hkey : target.routingKey = s.names.routingKey)
    (hm : Producer.IsPart target properties body m) (tag : String) : s.Suits tag m := by
  have hname : target.exchange.name = s.names.exchange := congrArg Exchange.name hexchange
  rcases hm with rfl | rfl | rfl
  · trivial
  · rw [hname, hexchange]
    exact ⟨s.exchange, .tail _ (.head _), rfl⟩
  · rw [hname, hkey]
    exact ⟨s.names.queue, s.binding.arguments, s.exchange, .tail _ (.tail _ (.tail _ (.head _))),
      .tail _ (.head _)⟩

end ConsumerSettings

/-! ## The law -/

/-- Where the messages of a consumer's type go when a producer publishes them. -/
structure MeetingLaw (s : ConsumerSettings) (p : Producer) : Prop where
  /-- The consumer takes a name that is given, and derives one that is empty. -/
  resolved : s.names.exchange =
      (if s.exchange.name = "" then toSnakeCase s.messageType else s.exchange.name) ∧
    s.names.routingKey =
      if s.binding.routingKey = "" then toSnakeCase s.messageType else s.binding.routingKey
  /-- The producer takes what is configured; a type without settings has the derived names. -/
  target : (p.target s.messageType none).exchange = (p.settingsOf s.messageType).exchange ∧
    (p.target s.messageType none).routingKey = (p.settingsOf s.messageType).routingKey
  unset : (∀ r ∈ p.settings, r.messageType ≠ s.messageType) →
    (p.settingsOf s.messageType).exchange =
        (ProducerSettings.ofMessageType s.messageType).exchange ∧
      (p.settingsOf s.messageType).routingKey = toSnakeCase s.messageType
  /-- With the same exchange, given by name or by default, they meet at it, ... -/
  exchange : s.SharesExchange (p.settingsOf s.messageType) →
    (p.target s.messageType none).exchange = s.resolvedExchange
  /-- ... and with the same key at the key. -/
  key : s.SharesKey (p.settingsOf s.messageType) →
    (p.target s.messageType none).routingKey = s.names.routingKey
  /-- An exchange without a name that both were given is missed, if one can be derived, ... -/
  unnamed : (p.settingsOf s.messageType).exchange = s.exchange →
    ((p.target s.messageType none).exchange = s.resolvedExchange ↔
      s.exchange.name ≠ "" ∨ toSnakeCase s.messageType = "")
  /-- ... and so is an empty key. -/
  unkeyed : (p.settingsOf s.messageType).routingKey = s.binding.routingKey →
    ((p.target s.messageType none).routingKey = s.names.routingKey ↔
      s.binding.routingKey ≠ "" ∨ toSnakeCase s.messageType = "")
  /-- Where they meet, whatever the producer asks of the broker for a message suits what the
  consumer asks for. -/
  suits : (p.target s.messageType none).exchange = s.resolvedExchange →
    (p.target s.messageType none).routingKey = s.names.routingKey →
      ∀ (c : Connection) (context : TraceContext) (m : Message) (data : Metadata) (scene : Scene),
        m.name = s.messageType →
          let published := p.publish (Producer.wire c) context m data none scene
          ∀ f ∈ published.2.2.broker.frames.drop scene.broker.frames.length,
            ∀ tag, s.Suits tag f.method

/-- A producer and a consumer of one type meet where their settings are the same, given by name or
by default. -/
theorem meeting_law (s : ConsumerSettings) (p : Producer) : MeetingLaw s p where
  resolved := by
    rw [ConsumerSettings.names_exchange, ConsumerSettings.names_routingKey]
    simp only [TopologyNames.choose, String.isEmpty_iff]
    exact ⟨rfl, rfl⟩
  target := ⟨rfl, rfl⟩
  unset hnone := by
    have hfind : p.settings.reverse.find? (·.messageType == s.messageType) = none := by
      simpa [List.find?_eq_none] using hnone
    rw [Producer.settingsOf, hfind]
    exact ⟨rfl, rfl⟩
  exchange := ConsumerSettings.SharesExchange.eq_resolvedExchange
  key := ConsumerSettings.SharesKey.eq_names_routingKey
  unnamed := ConsumerSettings.eq_resolvedExchange_iff
  unkeyed := ConsumerSettings.eq_names_routingKey_iff
  suits hexchange hkey c context m data scene hm := by
    intro published f hf tag
    cases hencoded : serialize m with
    | error e =>
      -- nothing is asked
      unfold published Producer.publish at hf
      rw [hencoded] at hf
      dsimp only at hf
      rw [Producer.broker_logs, List.drop_length] at hf
      cases hf
    | ok encoded =>
      obtain ⟨hrecorded, -⟩ := p.recorded_publish c context m data none scene hencoded
      rw [← hm] at hexchange hkey
      exact ConsumerSettings.suits_of_isPart hexchange hkey (hrecorded.of_mem_drop hf) tag

/-- A consumer without names of its own. -/
def unnamedSettings : ConsumerSettings where
  name := "orders"
  messageType := "orderCreated"

/-- Its exchange and its key on the other side. -/
def unnamedProducer : Producer :=
  .ofSettings {}
    [⟨"orderCreated", unnamedSettings.exchange, unnamedSettings.binding.routingKey, true⟩] []

/-- The two miss each other: a message goes out to the exchange without a name, with an empty key,
while the queue is bound to the exchange and the key that are derived from the type. -/
theorem unnamed_exchange_missed :
    let s := unnamedSettings
    let p := unnamedProducer
    let c : Connection := { settings := {}, link := some 0, isConnected := true }
    let m : Message := ⟨Catalogue.orderCreated, [.text "o-1", .integer 42]⟩
    let published := p.publish (Producer.wire c) none m .empty none linkedScene
    ((p.settingsOf s.messageType).exchange = s.exchange ∧
      (p.settingsOf s.messageType).routingKey = s.binding.routingKey) ∧
    ((p.target s.messageType none).exchange.name ≠ s.names.exchange ∧
      (p.target s.messageType none).routingKey ≠ s.names.routingKey) ∧
    published.1 = .ok () ∧
    ∃ channel properties body, published.2.2.broker.frames =
      [⟨some channel, .openChannel⟩, ⟨some channel, .publish "" "" properties body⟩] := by
  have hmissed : ("" : String) ≠ "order_created" := by decide
  exact ⟨⟨rfl, rfl⟩, ⟨hmissed, hmissed⟩, rfl, _, _, _, rfl⟩

end MessageBus
