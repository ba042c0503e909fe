import MessageBus.Producer
import MessageBus.Proofs.Consumer.Settlement
import MessageBus.Proofs.Message.Codec
import MessageBus.Proofs.Metadata.Headers

/-!
# Publishing and consuming

What a producer sends off is what handlers see at the other end, provided that the broker hands over
properties, headers and body as they are: the message, its metadata and its ids, and under two keys
of the metadata the span under which it was published. Main statement: `envelope_law`.
-/

set_option autoImplicit false

namespace MessageBus

/-! ## Metadata as headers -/

namespace Metadata

/-- The metadata with a span context under its two keys. -/
def withSpan (m : Metadata) (c : SpanContext) : Metadata :=
  (m.insert SpanContext.parentKey (.text c.parentText)).insert SpanContext.stateKey
    (.text c.state.text)

/-- A consumer finds the metadata in the headers of a message, and the span of its producer. -/
theorem ofTable_headers (m : Metadata) (c : SpanContext) :
    ofTable (Producer.headers m (some c)) = m.withSpan c := by
  have htext (s : String) : HeaderValue.ofAmqp? (.ofText s) = some (.text s) :=
    HeaderValue.ofAmqp?_toAmqp (.text s)
  have hparent : LetterCase.lowerText SpanContext.parentKey = SpanContext.parentKey := by decide
  have hstate : LetterCase.lowerText SpanContext.stateKey = SpanContext.stateKey := by decide
  simp only [Producer.headers, Tracing.inject, Tracing.setHeader, hparent, hstate, ofTable]
  rw [Dict.filterMap_insert _ (htext _), Dict.filterMap_insert _ (htext _)]
  exact congrArg (fun m : Metadata => (m.insert _ _).insert _ _) (ofTable_writeTo m)

/-- Nothing else is changed. -/
theorem get?_withSpan (m : Metadata) (c : SpanContext) {k : String}
    (hparent : k ≠ SpanContext.parentKey) (hstate : k ≠ SpanContext.stateKey) :
    (m.withSpan c).get? k = m.get? k := by
  rw [withSpan, Dict.get?_insert, if_neg hstate.symm, Dict.get?_insert, if_neg hparent.symm]

end Metadata

/-! ## What reaches the broker -/

namespace Amqp.Broker

theorem frames_cut (b : Broker) (link : LinkId) : (b.cut link).frames = b.frames := by
  unfold cut
  split <;> rfl

theorem frames_refuse (b : Broker) (channel : ChannelId) (refusal : Refusal) :
    (b.refuse channel refusal).frames = b.frames := by
  unfold refuse
  split
  · unfold closeChannel
    split
    · split <;> rfl
    · rfl
  · split
    · rfl
    · exact b.frames_cut _

theorem frames_grant (b : Broker) (channel : ChannelId) (m : Method) :
    (b.grant channel m).frames = b.frames := by
  cases m <;> rfl

/-- A request reaches the broker if its channel is open; a request that is granted does. -/
theorem frames_request (b : Broker) (channel : ChannelId) (m : Method) :
    (b.request channel m).2.frames = b.frames ++ [⟨some channel, m⟩] ∨
      ((b.request channel m).2.frames = b.frames ∧ (b.request channel m).1 = false) := by
  unfold request
  split
  · left
    dsimp only
    split
    · exact frames_grant _ _ _
    · exact frames_refuse _ _ _
  · exact .inr ⟨rfl, rfl⟩

/-- To open a channel takes at most one request. -/
theorem frames_openChannel (b : Broker) (link : LinkId) :
    ∃ more, (b.openChannel link).2.frames = b.frames ++ more ∧
      ∀ f ∈ more, f.method = .openChannel := by
  unfold openChannel
  split
  · exact ⟨[], by simp, by simp⟩
  · split
    · dsimp only
      split
      · exact ⟨[], by simp, by simp⟩
      · split
        · exact ⟨[_], rfl, by simp⟩
        · exact ⟨[_], frames_cut _ _, by simp⟩
    · exact ⟨[], by simp, by simp⟩

end Amqp.Broker

/-- From one scene to another the broker has recorded some more requests, all of one kind. -/
def Recorded (kind : Amqp.Method → Prop) (s s' : Scene) : Prop :=
  ∃ more, s'.broker.frames = s.broker.frames ++ more ∧ ∀ f ∈ more, kind f.method

namespace Recorded

variable {kind : Amqp.Method → Prop} {s s' s'' : Scene}

theorem of_same (h : s'.broker.frames = s.broker.frames) : Recorded kind s s' :=
  ⟨[], by rw [h, List.append_nil], by simp⟩

theorem trans (h : Recorded kind s s') (h' : Recorded kind s' s'') : Recorded kind s s'' := by
  obtain ⟨more, hmore, hkind⟩ := h
  obtain ⟨more', hmore', hkind'⟩ := h'
  refine ⟨more ++ more', by rw [hmore', hmore, List.append_assoc], fun f hf => ?_⟩
  rcases List.mem_append.1 hf with hf | hf
  · exact hkind f hf
  · exact hkind' f hf

/-- What was recorded afterwards is of that kind. -/
theorem of_mem_drop (h : Recorded kind s s') {f : Amqp.Frame}
    (hf : f ∈ s'.broker.frames.drop s.broker.frames.length) : kind f.method := by
  obtain ⟨more, hmore, hkind⟩ := h
  rw [hmore, List.drop_left] at hf
  exact hkind f hf

end Recorded

namespace Producer

variable {p : Producer} {c : Connection} {s : Scene} {target : PublishTarget} {body : Bytes}
  {properties : Amqp.Properties}

/-- A request for one publish: a new channel, the exchange, or the message itself. -/
def IsPart (target : PublishTarget) (properties : Amqp.Properties) (body : Bytes)
    (m : Amqp.Method) : Prop :=
  m = .openChannel ∨ m = .declareExchange target.exchange.name target.exchange ∨
    m = .publish target.exchange.name target.routingKey properties body

theorem frames_wire (c : Connection) (s : Scene) (channel : Amqp.ChannelId) (m : Amqp.Method) :
    ((wire c).request s channel m).2.broker.frames = s.broker.frames ++ [⟨some channel, m⟩] ∨
      (((wire c).request s channel m).2.broker.frames = s.broker.frames ∧
        ((wire c).request s channel m).1 = false) := s.broker.frames_request channel m

theorem recorded_request {kind : Amqp.Method → Prop} {channel : Amqp.ChannelId} {m : Amqp.Method}
    (hm : kind m) (c : Connection) (s : Scene) :
    Recorded kind s ((wire c).request s channel m).2 := by
  rcases frames_wire c s channel m with h | ⟨h, -⟩
  · exact ⟨[_], h, by simpa using hm⟩
  · exact .of_same h

theorem recorded_ensureChannel (p : Producer) (c : Connection) (s : Scene) :
    Recorded (IsPart target properties body) s (p.ensureChannel (wire c) s).2.2 := by
  have hopen : Recorded (IsPart target properties body) s (c.openChannel s).2 := by
    unfold Connection.openChannel
    split
    · exact .of_same rfl
    · split
      · obtain ⟨more, hmore, hopen⟩ := s.broker.frames_openChannel _
        exact ⟨more, hmore, fun f hf => .inl (hopen f hf)⟩
      · exact .of_same rfl
  unfold ensureChannel
  split
  · exact .of_same rfl
  · dsimp only
    split <;> exact hopen

theorem recorded_ensureExchange (p : Producer) (c : Connection) (channel : ProducerChannel)
    (s : Scene) : Recorded (IsPart target properties body) s
      (p.ensureExchange (wire c) channel target.exchange s).2.2 := by
  unfold ensureExchange
  split
  · exact .of_same rfl
  · dsimp only
    split <;> exact recorded_request (.inr (.inl rfl)) c s

/-- To send a message takes at most these requests, ... -/
theorem recorded_send (p : Producer) (c : Connection) (target : PublishTarget) (body : Bytes)
    (properties : Amqp.Properties) (s : Scene) :
    Recorded (IsPart target properties body) s (p.send (wire c) target body properties s).2.2 := by
  have hchannel : Recorded (IsPart target properties body) s (p.ensureChannel (wire c) s).2.2 :=
    p.recorded_ensureChannel c s
  unfold send
  generalize p.ensureChannel (wire c) s = r at hchannel ⊢
  obtain ⟨_ | channel, p, s'⟩ := r
  · exact hchannel
  have hexchange := hchannel.trans (p.recorded_ensureExchange c channel s')
  dsimp only
  generalize p.ensureExchange (wire c) channel target.exchange s' = r at hexchange ⊢
  obtain ⟨_ | _, p, s''⟩ := r
  · exact hexchange
  · exact hexchange.trans (recorded_request (.inr (.inr rfl)) c s'')

/-- ... and one that is sent has reached the broker. -/
theorem exists_frame_of_send (h : (p.send (wire c) target body properties s).1 = .ok ()) :
    ∃ f ∈ (p.send (wire c) target body properties s).2.2.broker.frames.drop s.broker.frames.length,
      f.method = .publish target.exchange.name target.routingKey properties body := by
  have hchannel : Recorded (IsPart target properties body) s (p.ensureChannel (wire c) s).2.2 :=
    p.recorded_ensureChannel c s
  unfold send at h ⊢
  generalize p.ensureChannel (wire c) s = r at h hchannel ⊢
  obtain ⟨_ | channel, p, s'⟩ := r
  · cases h
  have hexchange := hchannel.trans (p.recorded_ensureExchange c channel s')
  dsimp only at h ⊢
  generalize p.ensureExchange (wire c) channel target.exchange s' = r at h hexchange ⊢
  obtain ⟨_ | _, p, s''⟩ := r
  · cases h
  obtain ⟨more, hmore, -⟩ := hexchange
  dsimp only at h hmore ⊢
  rcases frames_wire c s'' channel.channel
    (.publish target.exchange.name target.routingKey properties body) with hframes | ⟨-, hno⟩
  · rw [hframes, hmore, List.append_assoc, List.drop_left]
    exact ⟨_, List.mem_append_right _ (List.mem_singleton.2 rfl), rfl⟩
  · simp [hno] at h

/-- The span under which a message is published. -/
def spanFor (p : Producer) (context : TraceContext) (message : Message) (exchange : Option String)
    (s : Scene) : SpanContext :=
  (s.recorder.start (.producer tracingScope context (p.target message.name exchange).exchange.name
    (p.target message.name exchange).routingKey)).2

/-- The properties and headers of a message that is published. -/
def propertiesFor (p : Producer) (context : TraceContext) (message : Message) (metadata : Metadata)
    (exchange : Option String) (contentType : String) (s : Scene) : Amqp.Properties :=
  { envelope message metadata contentType p.appId (p.target message.name exchange).persistent
      (stamp s).1 with
    headers := some (headers metadata (some (p.spanFor context message exchange s))) }

theorem broker_notify (message : Message) (observers : List String) (s : Scene) :
    (notify message observers s).broker = s.broker := by
  unfold notify
  induction observers generalizing s with
  | nil => rfl
  | cons observer observers ih => exact ih _

theorem broker_logs (s : Scene) (records : List LogRecord) :
    (records.foldl Scene.log s).broker = s.broker := by
  induction records generalizing s with
  | nil => rfl
  | cons record records ih => exact ih _

/-- To publish a message takes at most the requests for it, and if it is published it has reached
the broker. -/
theorem recorded_publish (p : Producer) (c : Connection) (context : TraceContext)
    (message : Message) (metadata : Metadata) (exchange : Option String) (s : Scene)
    {encoded : Encoded} (hencoded : serialize message = .ok encoded) :
    let target := p.target message.name exchange
    let properties := p.propertiesFor context message metadata exchange encoded.contentType s
    let published := p.publish (wire c) context message metadata exchange s
    Recorded (IsPart target properties encoded.data) s published.2.2 ∧
      (published.1 = .ok () →
        ∃ f ∈ published.2.2.broker.frames.drop s.broker.frames.length,
          f.method = .publish target.exchange.name target.routingKey properties encoded.data) := by
  intro target properties published
  -- what is done to the scene before and after the message is sent does not concern the broker
  obtain ⟨s₀, hbroker₀, hsend⟩ : ∃ s₀ : Scene, s₀.broker = s.broker ∧
      published.2.2.broker = (p.send (wire c) target encoded.data properties s₀).2.2.broker ∧
      (published.1 = .ok () → (p.send (wire c) target encoded.data properties s₀).1 = .ok ()) := by
    refine ⟨{ s with
      recorder := (s.recorder.start (.producer tracingScope context target.exchange.name
        target.routingKey)).1
      taken := s.taken + 2 }, rfl, ?_⟩
    unfold published publish
    rw [hencoded]
    dsimp only
    split
    · next e he =>
      refine ⟨rfl, fun h => ?_⟩
      cases h
    · next he =>
      rw [broker_notify]
      exact ⟨rfl, fun _ => he⟩
  have hrecorded := p.recorded_send c target encoded.data properties s₀
  refine ⟨?_, fun hok => ?_⟩
  · obtain ⟨more, hmore, hkind⟩ := hrecorded
    exact ⟨more, by rw [hsend.1, hmore, hbroker₀], hkind⟩
  · have hframe := exists_frame_of_send (hsend.2 hok)
    rwa [hbroker₀, ← hsend.1] at hframe

end Producer

/-! ## The law -/

/-- The delivery of a message that was published, with properties, headers and body as they were. -/
def Delivery.ofPublished (exchange routingKey : String) (tag : UInt64) (redelivered : Bool)
    (p : Amqp.Properties) (body : Bytes) : Delivery where
  exchange
  routingKey
  contentType := p.contentType
  kind := p.kind
  headers := p.headers
  messageId := p.messageId
  correlationId := p.correlationId
  timestamp := some p.timestamp
  tag
  redelivered
  data := body

/-- What handlers see of a message that was published in a scene under a span. -/
structure EnvelopeLaw (registry : Registry) (s : Scene) (m : Message) (data : Metadata)
    (span : SpanContext) (delivery : Delivery) (received : Received) : Prop where
  /-- Whoever processes the delivery hands this to the handlers. -/
  handled : ∀ (settings : ConsumerSettings) (names : TopologyNames) (handlers : List Handler)
    (es : List Turn) (result : Outcome),
    (settings.process registry names handlers delivery).Course es result →
      ∃ context outcome before runs after, es = before ++ runs ++ after ∧
        (settings.runHandlers (some context) received handlers).Course runs outcome
  /-- The message is the one that was published, and of its type. -/
  message : received.message = m
  messageType : received.messageType = m.name
  contentType : received.contentType = jsonContentType
  messageId : m.id ≠ "" → received.messageId = m.id
  freshMessageId : m.id = "" →
    received.messageId = s.freshId s.taken ∧ received.messageId ≠ ""
  correlationId : ∀ id, data.text? Metadata.correlationIdKey = some id → id ≠ "" →
    received.correlationId = id
  freshCorrelationId : (∀ id, data.text? Metadata.correlationIdKey = some id → id = "") →
    received.correlationId = s.freshId (s.taken + 1) ∧ received.correlationId ≠ ""
  /-- The metadata say under which span the message was published, ... -/
  metadata : received.metadata = data.withSpan span
  /-- ... and are otherwise what they were. -/
  kept : ∀ k, k ≠ SpanContext.parentKey → k ≠ SpanContext.stateKey →
    received.metadata.get? k = data.get? k

theorem orFresh_of_ne {text fresh : String} (h : text ≠ "") : orFresh text fresh = text := by
  rw [orFresh, if_neg (by simpa using h)]

/-- A delivery with the properties, headers and body of a message obeys the law. -/
theorem envelopeLaw_of_encoded {registry : Registry} {s : Scene} {m : Message} {encoded : Encoded}
    (hfresh : ∀ n, s.freshId n ≠ "") (hcontent : encoded.contentType = jsonContentType)
    (hread : registry.deserialize encoded.data m.name encoded.contentType = .ok m) (p : Producer)
    (context : TraceContext) (data : Metadata) (exchange : Option String) (ex key : String)
    (tag : UInt64) (redelivered : Bool) :
    let delivery := Delivery.ofPublished ex key tag redelivered
      (p.propertiesFor context m data exchange encoded.contentType s) encoded.data
    EnvelopeLaw registry s m data (p.spanFor context m exchange s) delivery
      (ConsumerSettings.receivedOf delivery m) := by
  intro delivery
  constructor
  case handled =>
    intro settings names handlers es result hcourse
    obtain ⟨context, outcome, before, runs, settling, after, hes, -, -, hruns, -⟩ :=
      ConsumerSettings.course_process_ok hread hcourse
    exact ⟨context, outcome, before, runs, settling ++ after, hes, hruns⟩
  case message => rfl
  case messageType => rfl
  case contentType =>
    have hkind : delivery.contentType = jsonContentType := hcontent
    rw [ConsumerSettings.receivedOf, hkind]
    rfl
  case messageId => exact fun hid => orFresh_of_ne hid
  case freshMessageId =>
    intro hid
    have hsame : orFresh m.id (s.freshId s.taken) = s.freshId s.taken := by rw [hid]; rfl
    exact ⟨hsame, fun hnil => hfresh s.taken (hsame.symm.trans hnil)⟩
  case correlationId =>
    intro id hid hne
    have hsame : orFresh ((data.text? Metadata.correlationIdKey).getD "")
        (s.freshId (s.taken + 1)) = id := by
      rw [hid]
      exact orFresh_of_ne hne
    exact hsame
  case freshCorrelationId =>
    intro hnone
    have hempty : (data.text? Metadata.correlationIdKey).getD "" = "" := by
      cases hid : data.text? Metadata.correlationIdKey with
      | none => rfl
      | some id => exact hnone id hid
    have hsame : orFresh ((data.text? Metadata.correlationIdKey).getD "")
        (s.freshId (s.taken + 1)) = s.freshId (s.taken + 1) := by
      rw [hempty]
      rfl
    exact ⟨hsame, fun hnil => hfresh (s.taken + 1) (hsame.symm.trans hnil)⟩
  case metadata => exact Metadata.ofTable_headers data _
  case kept =>
    intro k hparent hstate
    have hsame := Metadata.get?_withSpan data (p.spanFor context m exchange s) hparent hstate
    rw [← Metadata.ofTable_headers] at hsame
    exact hsame

/-- What a producer sends off reaches the handlers at the other end as it was. -/
theorem envelope_law (p : Producer) (c : Connection) (context : TraceContext) (m : Message)
    (data : Metadata) (exchange : Option String) (s : Scene) (registry : Registry)
    (hfresh : ∀ n, s.freshId n ≠ "") (hregistered : registry.find? m.name = some m.type)
    (hm : m.Readable) :
    let published := p.publish (Producer.wire c) context m data exchange s
    let frames := published.2.2.broker.frames.drop s.broker.frames.length
    (published.1 = .ok () →
      ∃ f ∈ frames, ∃ ex key properties body, f.method = .publish ex key properties body) ∧
    ∀ f ∈ frames, ∀ ex key properties body, f.method = .publish ex key properties body →
      ∀ tag redelivered, ∃ received,
        EnvelopeLaw registry s m data (p.spanFor context m exchange s)
          (.ofPublished ex key tag redelivered properties body) received := by
  intro published frames
  cases hencoded : serialize m with
  | error e =>
    -- nothing is sent
    have hnone : published.1 = .error e ∧ published.2.2.broker = s.broker := by
      unfold published Producer.publish
      rw [hencoded]
      exact ⟨rfl, Producer.broker_logs s _⟩
    refine ⟨fun hok => ?_, fun f hf => ?_⟩
    · rw [hnone.1] at hok
      cases hok
    · unfold frames at hf
      rw [hnone.2, List.drop_length] at hf
      cases hf
  | ok encoded =>
    obtain ⟨hrecorded, hsent⟩ := p.recorded_publish c context m data exchange s hencoded
    refine ⟨fun hok => ?_, fun f hf ex key properties body hmethod tag redelivered => ?_⟩
    · obtain ⟨f, hf, hmethod⟩ := hsent hok
      exact ⟨f, hf, _, _, _, _, hmethod⟩
    -- of all the requests it is the one for the message
    obtain ⟨rfl, rfl⟩ : properties =
        p.propertiesFor context m data exchange encoded.contentType s ∧ body = encoded.data := by
      have hkind := hrecorded.of_mem_drop hf
      rw [hmethod] at hkind
      rcases hkind with h | h | h
      · cases h
      · cases h
      · cases h
        exact ⟨rfl, rfl⟩
    obtain ⟨hcontent, hread⟩ := Registry.deserialize_serialize hregistered hm hencoded
    exact ⟨_, envelopeLaw_of_encoded hfresh hcontent hread p context data exchange ex key tag
      redelivered⟩

/-- A request that failed before, with the first attempt as its cause. -/
def Catalogue.retriedRequest : Message where
  type := requestSent
  fields := [.text "r-2", .integer 200, .flag true, .list [.text "retried"],
    .dictionary [("attempt", .integer 2)],
    .present (.record [.text "r-1", .integer 503, .flag true, .list [], .dictionary [], .absent])]

theorem Catalogue.readable_retriedRequest : retriedRequest.Readable where
  faithful := Registry.faithful_catalogue requestSent (by simp [all])
  value := by
    refine .record rfl ?_
    simp only [retriedRequest, List.zip_cons_cons, List.zip_nil_right, List.forall_mem_cons]
    refine ⟨.text _, .integer (by decide), .flag _, .list (by simpa using .text _),
      .dictionary (by simp) (by simpa using .integer (by decide)), .present (.record rfl ?_),
      by simp⟩
    simp only [List.zip_cons_cons, List.zip_nil_right, List.forall_mem_cons]
    exact ⟨.text _, .integer (by decide), .flag _, .list (by simp), .dictionary .nil (by simp),
      .absent _, by simp⟩
  shallow j hj := by
    obtain rfl := Except.ok.inj hj
    decide

/-- A scene with a broker to which there is one link. -/
def linkedScene : Scene := { broker := { links := [{}] } }

/-- A message that is published over a link is handed to the handlers as it was. -/
theorem envelope_law_retriedRequest :
    let p : Producer := .ofSettings {} [] []
    let c : Connection := { settings := {}, link := some 0, isConnected := true }
    let data : Metadata := Dict.empty.insert "tracestate" (.bool true)
    let published := p.publish (Producer.wire c) none Catalogue.retriedRequest data none linkedScene
    published.1 = .ok () ∧ ∃ f ∈ published.2.2.broker.frames, ∃ ex key properties body,
      f.method = .publish ex key properties body ∧ ∃ received,
        EnvelopeLaw ⟨Catalogue.usual⟩ linkedScene Catalogue.retriedRequest data
          (p.spanFor none Catalogue.retriedRequest none linkedScene)
          (.ofPublished ex key 1 false properties body) received := by
  intro p c data published
  have hok : published.1 = .ok () := rfl
  have hfresh : ∀ n, linkedScene.freshId n ≠ "" := by
    intro n hnil
    have hdigits : toString n = "" := hnil
    rw [Nat.toString_eq_ofList_toDigits, String.ofList_eq_empty_iff] at hdigits
    exact Nat.toDigits_ne_nil hdigits
  obtain ⟨hsent, hlaw⟩ := envelope_law p c none Catalogue.retriedRequest data none linkedScene
    ⟨Catalogue.usual⟩ hfresh rfl Catalogue.readable_retriedRequest
  obtain ⟨f, hf, ex, key, properties, body, hmethod⟩ := hsent hok
  exact ⟨hok, f, hf, ex, key, properties, body, hmethod, hlaw f hf ex key properties body hmethod 1
    false⟩

end MessageBus
