import MessageBus.Proofs.Producer.Cache
import MessageBus.Proofs.Tracing.Continuity

/-!
# One publish from beginning to end

To publish a message is to write it, to begin a span, to make at most three requests, to end the
span, and to tell the observers. `Parcel.Sent` says which requests and answers go with which result;
the rest of the scene depends on the result only (`exists_publish`). Nothing is assumed of the
broker: the requests go over any wire to it. Main statement: `publish_law`.
-/

set_option autoImplicit false

namespace MessageBus

/-! ## What is asked for one parcel -/

/-- Whether a request sends a message off. -/
def Request.isPublish : Request → Bool
  | .on _ (.publish ..) => true
  | _ => false

namespace Parcel

variable {x : Parcel} {r : Request × Reply} {talk : List (Request × Reply)} {result : Outcome}
  {e : BusError}

/-- A request before that of the parcel itself. -/
def Prepares (x : Parcel) (r : Request) : Prop := r = .openChannel ∨ ∃ c, r = .on c x.declaration

/-- The answer to a request is a failure, which gives an error. -/
inductive Fails (x : Parcel) : Request × Reply → BusError → Prop where
  /-- No channel is opened. -/
  | unopened (e : BusError) : Fails x (.openChannel, .noChannel e) e
  /-- The exchange is not declared. -/
  | undeclared (c : Amqp.ChannelId) :
    Fails x (.on c x.declaration, .refused) (.exchangeDeclaration x.exchangeName)
  /-- The parcel is not sent off. -/
  | unsent (c : Amqp.ChannelId) : Fails x (.on c x.dispatch, .refused) Producer.unsentError

/-- What was asked for a parcel, with the answers, and what came of it. -/
structure Sent (x : Parcel) (talk : List (Request × Reply)) (result : Outcome) : Prop where
  /-- Nothing is asked for but a channel, the exchange, and to send the parcel off. -/
  kinds : ∀ r ∈ talk, x.Prepares r.1 ∨ ∃ c, r.1 = .on c x.dispatch
  /-- A parcel is sent off at most once. -/
  once : talk.countP (·.1.isPublish) ≤ 1
  /-- All is well if that is granted, and only then. -/
  ok : result = .ok () ↔ ∃ c, (.on c x.dispatch, .granted) ∈ talk
  /-- Otherwise the last answer is a failure. -/
  error : ∀ e, result = .error e → ∃ before r, talk = before ++ [r] ∧ x.Fails r e

theorem Prepares.not_isPublish {r : Request} (h : x.Prepares r) : r.isPublish = false := by
  rcases h with rfl | ⟨c, rfl⟩
  · rfl
  · rfl

theorem Prepares.ne_dispatch {r : Request} (h : x.Prepares r) (c : Amqp.ChannelId) :
    r ≠ .on c x.dispatch := by
  rintro rfl
  cases h.not_isPublish

/-- A parcel for which something was prepared is sent like any other. -/
theorem Sent.cons (h : x.Sent talk result) (hr : x.Prepares r.1) : x.Sent (r :: talk) result where
  kinds := List.forall_mem_cons.2 ⟨.inl hr, h.kinds⟩
  once := by
    rw [List.countP_cons_of_neg (by simp [hr.not_isPublish])]
    exact h.once
  ok := by
    rw [h.ok]
    refine exists_congr fun c => ?_
    rw [List.mem_cons, or_iff_right]
    rintro rfl
    exact hr.ne_dispatch c rfl
  error e he := by
    obtain ⟨before, last, rfl, hlast⟩ := h.error e he
    exact ⟨r :: before, last, rfl, hlast⟩

/-- Where a preparation fails nothing else is asked for. -/
theorem sent_of_fails (hr : x.Prepares r.1) (hfails : x.Fails r e) : x.Sent [r] (.error e) where
  kinds := List.forall_mem_singleton.2 (.inl hr)
  once := List.countP_le_length
  ok := by
    constructor
    · intro h
      cases h
    · rintro ⟨c, hc⟩
      obtain rfl := List.mem_singleton.1 hc
      exact absurd rfl (hr.ne_dispatch c)
  error e' he := by
    obtain rfl := Except.error.inj he
    exact ⟨[], r, rfl, hfails⟩

/-- A parcel that is ready is sent off at once. -/
theorem sent_dispatch (x : Parcel) (c : Amqp.ChannelId) (granted : Bool) :
    x.Sent [(.on c x.dispatch, if granted then .granted else .refused)]
      (if granted then .ok () else .error Producer.unsentError) where
  kinds := List.forall_mem_singleton.2 (.inr ⟨c, rfl⟩)
  once := List.countP_le_length
  ok := by cases granted <;> simp
  error e he := by
    cases granted with
    | true => cases he
    | false =>
      obtain rfl := Except.error.inj he
      exact ⟨[], _, rfl, .unsent c⟩

end Parcel

/-! ## Sending over a wire -/

section Sending

variable {σ : Type} {w : Wire σ} {s s' s'' : σ} {x : Parcel}

theorem Wire.answers_cons {r : Request} {rs : List Request} {reply : Reply} {replies : List Reply}
    (hr : w.answer s r = (reply, s')) (hrs : w.answers s' rs = (replies, s'')) :
    w.answers s (r :: rs) = (reply :: replies, s'') := by
  simp only [Wire.answers, hr, hrs]

/-- A producer has sent a parcel over a wire: some talk led to the result and to what is behind the
wire now, and of the producer only the channel may be another one. -/
structure SentOver (x : Parcel) (w : Wire σ) (p : Producer) (s : σ)
    (sent : Outcome × Producer × σ) : Prop where
  talk : ∃ talk : List (Request × Reply), x.Sent talk sent.1 ∧
    w.answers s (talk.map Prod.fst) = (talk.map Prod.snd, sent.2.2)
  producer : sent.2.1 = { p with channel := sent.2.1.channel }

theorem SentOver.cons {p : Producer} {channel : Option ProducerChannel} {r : Request}
    {reply : Reply} {sent : Outcome × Producer × σ} (h : SentOver x w { p with channel } s' sent)
    (hr : w.answer s r = (reply, s')) (hprepares : x.Prepares r) : SentOver x w p s sent where
  talk := by
    obtain ⟨talk, hsent, hanswers⟩ := h.talk
    exact ⟨(r, reply) :: talk, hsent.cons hprepares, Wire.answers_cons hr hanswers⟩
  producer := h.producer

theorem sentOver_of_fails {r : Request} {reply : Reply} {e : BusError} (p : Producer)
    (hr : w.answer s r = (reply, s')) (hprepares : x.Prepares r) (hfails : x.Fails (r, reply) e) :
    SentOver x w p s (.error e, p, s') where
  talk := ⟨[(r, reply)], Parcel.sent_of_fails hprepares hfails, Wire.answers_cons hr rfl⟩
  producer := rfl

theorem sentOver_dispatch (w : Wire σ) (p : Producer) (x : Parcel) (c : ProducerChannel) (s : σ) :
    let sent := w.request s c.channel x.dispatch
    SentOver x w p s (if sent.1 then .ok () else .error Producer.unsentError, p, sent.2) where
  talk := ⟨_, x.sent_dispatch c.channel _, Wire.answers_cons rfl rfl⟩
  producer := rfl

/-- On a channel the exchange comes first, unless it is there, and then the parcel. -/
theorem sentOver_on (w : Wire σ) (p : Producer) (x : Parcel) (c : ProducerChannel) (s : σ) :
    SentOver x w p s (Desk.sendOn w p x c s) := by
  cases hready : x.isReady c with
  | true =>
    rw [Desk.sendOn_of_isReady w p s hready]
    exact sentOver_dispatch w p x c s
  | false =>
    rw [Desk.sendOn_of_not_isReady w p s hready]
    have hprepares : x.Prepares (.on c.channel x.declaration) := .inr ⟨c.channel, rfl⟩
    have hanswer : w.answer s (.on c.channel x.declaration) =
        (if (w.request s c.channel x.declaration).1 then .granted else .refused,
          (w.request s c.channel x.declaration).2) := rfl
    generalize w.request s c.channel x.declaration = declared at hanswer
    obtain ⟨_ | _, s'⟩ := declared
    · exact sentOver_of_fails p hanswer hprepares (.undeclared c.channel)
    · exact (sentOver_dispatch w _ x c s').cons hanswer hprepares

/-- Whatever a producer holds and whatever is answered, a parcel is sent by such a talk. -/
theorem sentOver_send (w : Wire σ) (p : Producer) (x : Parcel) (s : σ) :
    SentOver x w p s (p.send w x.target x.body x.properties s) := by
  by_cases hfinds : w.finds s p = true
  · obtain ⟨c, hc, hopen⟩ := (Option.any_eq_true _ _).1 hfinds
    rw [Desk.send_of_isOpen hc hopen]
    exact sentOver_on w p x c s
  · -- there is no channel, or the one there is has ended: what it had declared is forgotten
    rw [Desk.send_of_not_finds (Bool.eq_false_iff.2 hfinds)]
    cases hopened : w.openChannel s with
    | mk opened s' =>
      cases opened with
      | error e =>
        have hanswer : w.answer s .openChannel = (.noChannel e, s') := by
          rw [Wire.answer, hopened]
        exact sentOver_of_fails p hanswer (.inl rfl) (.unopened e)
      | ok channel =>
        have hanswer : w.answer s .openChannel = (.opened channel, s') := by
          rw [Wire.answer, hopened]
        exact (sentOver_on w _ x { channel } s').cons hanswer (.inl rfl)

end Sending

/-! ## In a scene -/

/-- A wire to the broker of a scene: it touches nothing else. -/
def Wire.inScene (b : Wire Amqp.Broker) : Wire Scene where
  openChannel s :=
    let (opened, broker) := b.openChannel s.broker
    (opened, { s with broker })
  isOpen s := b.isOpen s.broker
  request s channel method :=
    let (granted, broker) := b.request s.broker channel method
    (granted, { s with broker })

/-- The way of a connection to the broker. -/
def Connection.brokerWire (c : Connection) : Wire Amqp.Broker where
  openChannel b :=
    match c.link with
    | none => (.error (.channel "no active connection"), b)
    | some link =>
      if b.linkAlive link then
        let (channel, b) := b.openChannel link
        (match channel with
          | some channel => .ok channel
          | none => .error (.channel "the broker opened no channel"), b)
      else (.error (.channel "connection is closed"), b)
  isOpen := Amqp.Broker.channelOpen
  request b := b.request

namespace Producer

theorem wire_eq_inScene (c : Connection) : wire c = c.brokerWire.inScene := by
  have hopen (s : Scene) : (wire c).openChannel s = c.brokerWire.inScene.openChannel s := by
    show c.openChannel s = _
    simp only [Wire.inScene, Connection.brokerWire, Connection.openChannel]
    cases c.link with
    | none => rfl
    | some link =>
      dsimp only
      split
      · rfl
      · rfl
  exact congrArg (fun openChannel => { wire c with openChannel }) (funext hopen)

variable {p : Producer} {b : Wire Amqp.Broker} {context : TraceContext} {message : Message}
  {metadata : Metadata} {exchange : Option String} {s : Scene} {encoded : Encoded}

theorem sendOn_inScene (b : Wire Amqp.Broker) (p : Producer) (x : Parcel) (c : ProducerChannel)
    (s : Scene) :
    Desk.sendOn b.inScene p x c s =
      let sent := Desk.sendOn b p x c s.broker
      (sent.1, sent.2.1, { s with broker := sent.2.2 }) := by
  cases hready : x.isReady c with
  | true =>
    rw [Desk.sendOn_of_isReady _ p s hready, Desk.sendOn_of_isReady b p s.broker hready]
    rfl
  | false =>
    rw [Desk.sendOn_of_not_isReady _ p s hready, Desk.sendOn_of_not_isReady b p s.broker hready]
    have hdeclared : b.inScene.request s c.channel x.declaration =
        ((b.request s.broker c.channel x.declaration).1,
          { s with broker := (b.request s.broker c.channel x.declaration).2 }) := rfl
    rw [hdeclared]
    generalize b.request s.broker c.channel x.declaration = declared
    obtain ⟨_ | _, broker⟩ := declared
    · rfl
    · rfl

/-- Sending a parcel changes nothing in a scene but the broker. -/
theorem send_inScene (b : Wire Amqp.Broker) (p : Producer) (x : Parcel) (s : Scene) :
    p.send b.inScene x.target x.body x.properties s =
      let sent := p.send b x.target x.body x.properties s.broker
      (sent.1, sent.2.1, { s with broker := sent.2.2 }) := by
  by_cases hfinds : b.finds s.broker p = true
  · obtain ⟨c, hc, hopen⟩ := (Option.any_eq_true _ _).1 hfinds
    rw [Desk.send_of_isOpen hc hopen, Desk.send_of_isOpen (w := b.inScene) hc hopen]
    exact sendOn_inScene b p x c s
  · have hfinds : b.finds s.broker p = false := Bool.eq_false_iff.2 hfinds
    rw [Desk.send_of_not_finds hfinds, Desk.send_of_not_finds (w := b.inScene) hfinds]
    have hopened : b.inScene.openChannel s =
        ((b.openChannel s.broker).1, { s with broker := (b.openChannel s.broker).2 }) := rfl
    rw [hopened]
    generalize b.openChannel s.broker = opened
    obtain ⟨_ | channel, broker⟩ := opened
    · rfl
    · exact sendOn_inScene b _ x { channel } { s with broker }

/-! ## Messages and their spans -/

/-- The parcel of a message that is written. -/
def parcelFor (p : Producer) (context : TraceContext) (message : Message) (metadata : Metadata)
    (exchange : Option String) (encoded : Encoded) (s : Scene) : Parcel where
  target := p.target message.name exchange
  body := encoded.data
  properties := p.propertiesFor context message metadata exchange encoded.contentType s

/-- The span of a publish as it is reported, once the result is there. -/
def reportedSpan (p : Producer) (context : TraceContext) (message : Message)
    (exchange : Option String) (s : Scene) (result : Outcome) : Span :=
  (Span.begun (p.publishSpan context message exchange)
    (p.spanFor context message exchange s)).finished (Outcome.error? result)

theorem start_reportedSpan (p : Producer) (context : TraceContext) (message : Message)
    (exchange : Option String) (s : Scene) (result : Outcome) :
    (p.reportedSpan context message exchange s result).start =
      p.publishSpan context message exchange := by
  cases result <;> rfl

theorem context_reportedSpan (p : Producer) (context : TraceContext) (message : Message)
    (exchange : Option String) (s : Scene) (result : Outcome) :
    (p.reportedSpan context message exchange s result).context =
      p.spanFor context message exchange s := by
  cases result <;> rfl

/-- The scene in which a message is sent: two ids are taken, and the span has begun. -/
def sendingScene (p : Producer) (context : TraceContext) (message : Message)
    (exchange : Option String) (s : Scene) : Scene :=
  { s with
    recorder := (s.recorder.start (p.publishSpan context message exchange)).1
    taken := s.taken + 2 }

/-- What is logged of a message that is published. -/
def publishedLog (target : PublishTarget) (message : Message) : LogRecord :=
  .debug "publisher" "message published"
    [("exchange", .text target.exchange.name), ("routing_key", .text target.routingKey),
      ("kind", .text message.name)]

/-- The scene once there is a result and the span has ended. -/
def sentScene (p : Producer) (context : TraceContext) (message : Message)
    (exchange : Option String) (s : Scene) (result : Outcome) (s' : Scene) : Scene :=
  { s' with
    recorder := s'.recorder.finish (p.spanFor context message exchange s) (Outcome.error? result) }

/-- ... and once the observers know of it, if all went well. -/
def toldScene (p : Producer) (message : Message) (exchange : Option String) (result : Outcome)
    (s : Scene) : Scene :=
  match result with
  | .error _ => s
  | .ok _ =>
    notify message p.observers (s.log (publishedLog (p.target message.name exchange) message))

/-- A message that is written is sent between the beginning and the end of its span. -/
theorem publish_eq (p : Producer) (w : Wire Scene) (hencoded : serialize message = .ok encoded) :
    let x := p.parcelFor context message metadata exchange encoded s
    let sent := p.send w x.target x.body x.properties (p.sendingScene context message exchange s)
    p.publish w context message metadata exchange s =
      (sent.1, sent.2.1, p.toldScene message exchange sent.1
        (p.sentScene context message exchange s sent.1 sent.2.2)) := by
  intro x sent
  -- the observers are those of the producer that is left, and sending does not touch them
  have hobservers : sent.2.1.observers = p.observers :=
    (congrArg Producer.observers (sentOver_send w p x _).producer :)
  unfold publish
  rw [hencoded]
  dsimp only
  split
  · next e he =>
    have he : sent.1 = .error e := he
    have htold (s' : Scene) : p.toldScene message exchange sent.1 s' = s' := by rw [he]; rfl
    rw [htold]
    exact Prod.ext he.symm rfl
  · next he =>
    have he : sent.1 = .ok () := he
    have htold (s' : Scene) : p.toldScene message exchange sent.1 s' =
        notify message sent.2.1.observers
          (s'.log (publishedLog (p.target message.name exchange) message)) := by
      rw [he, hobservers]
      rfl
    rw [htold]
    exact Prod.ext he.symm rfl

/-- A span that ends before anything else happens to spans is reported, and the others are left
alone. -/
theorem finish_start (r : SpanRecorder) (start : SpanStart) (error : Option BusError) :
    (r.start start).1.finish (r.start start).2 error =
      { (r.start start).1 with
        opened := r.opened.filter (·.context != (r.start start).2)
        ended := r.ended ++ [(Span.begun start (r.start start).2).finished error] } := by
  have hopened : (r.start start).1.opened = .begun start (r.start start).2 :: r.opened := rfl
  have hfind : (r.start start).1.opened.find? (·.context == (r.start start).2) =
      some (.begun start (r.start start).2) := by
    rw [hopened]
    exact List.find?_cons_of_pos (beq_self_eq_true (r.start start).2)
  have hrest : (r.start start).1.opened.filter (·.context != (r.start start).2) =
      r.opened.filter (·.context != (r.start start).2) := by
    rw [hopened]
    exact List.filter_cons_of_neg (by simp [Span.begun])
  unfold SpanRecorder.finish SpanRecorder.close
  rw [hfind]
  dsimp only
  rw [hrest]
  rfl

/-- A span that begins has a context of its own. -/
theorem context_start_not_mem {r : SpanRecorder} (h : r.Numbered) (start : SpanStart) :
    (r.start start).2 ∉ contexts r.opened := by
  intro hmem
  obtain ⟨span, hspan, hcontext⟩ := List.mem_map.1 hmem
  have hold : (r.start start).2.span ≤ r.spans := hcontext ▸ h span hspan
  have hnew : r.spans < (r.start start).2.span :=
    ((r.account_start start).numbers _ (List.mem_singleton.2 rfl)).1
  omega

/-- What the journal shows of the observers when there is a result: of a publish that went well each
of them is told once, in the order in which they were registered; of others nobody is told. -/
def notices (p : Producer) (message : Message) (now : Nat) : Outcome → List Entry
  | .ok _ => p.observers.map fun o => ⟨now, 0, .notified o message⟩
  | .error _ => []

/-- The observers are told one after the other. -/
theorem notify_eq (message : Message) (observers : List String) (s : Scene) :
    notify message observers s =
      { s with
        journal := s.journal ++ observers.map fun o => ⟨s.now, 0, .notified o message⟩ } := by
  unfold notify
  induction observers generalizing s with
  | nil => simp
  | cons observer observers ih =>
    rw [List.foldl_cons, ih]
    simp [Scene.note]

end Producer

/-! ## The law -/

open Producer in
/-- What it is to publish a message, over any wire to the broker. -/
structure PublishLaw (p : Producer) (b : Wire Amqp.Broker) (context : TraceContext)
    (message : Message) (metadata : Metadata) (exchange : Option String) (s : Scene)
    (published : Outcome × Producer × Scene) : Prop where
  /-- The target is that of the last settings for the type of the message, or the usual one, ... -/
  settings :
    (∃ before settings after, p.settings = before ++ settings :: after ∧
      settings.messageType = message.name ∧
      (∀ later ∈ after, later.messageType ≠ message.name) ∧
      p.settingsOf message.name = settings) ∨
    ((∀ settings ∈ p.settings, settings.messageType ≠ message.name) ∧
      p.settingsOf message.name =
        { ProducerSettings.ofMessageType message.name with persisted := p.persistent })
  /-- ... except that an exchange that is named takes the place of the name there. -/
  target : p.target message.name exchange =
    let settings := p.settingsOf message.name
    { exchange := { settings.exchange with name := exchange.getD settings.exchange.name }
      routingKey := settings.routingKey
      persistent := settings.persisted }
  /-- Of a message that cannot be written there is nothing but a line in the log. -/
  unwritten : ∀ e, serialize message = .error e → (∃ reason, e = .serialization reason) ∧
    published = (.error e, p, { s with logs := s.logs ++ serializeLog message })
  /-- A message that is written is sent as one parcel. -/
  sent : ∀ encoded, serialize message = .ok encoded →
    SentOver (p.parcelFor context message metadata exchange encoded s) b p s.broker
      (published.1, published.2.1, published.2.2.broker)
  /-- One span begins and ends, with the outcome on it. -/
  span : ∀ encoded, serialize message = .ok encoded →
    let recorder := published.2.2.recorder
    ∃ span : Span, span.start = p.publishSpan context message exchange ∧
      span.start.kind = .producer ∧ span.context = p.spanFor context message exchange s ∧
      recorder.spans = s.recorder.spans + 1 ∧ recorder.ended = s.recorder.ended ++ [span] ∧
      (s.recorder.Numbered → recorder.opened = s.recorder.opened) ∧
      (published.1 = .ok () → span.status = .ok ∧ span.errors = []) ∧
      ∀ e, published.1 = .error e → span.status = .error e.message ∧ span.errors = [e.message]
  /-- When all that is done, the observers are told if all went well. -/
  told : ∀ encoded, serialize message = .ok encoded →
    ∃ s' : Scene, s'.now = s.now ∧ s'.journal = s.journal ∧ s'.broker = published.2.2.broker ∧
      s'.recorder = published.2.2.recorder ∧ published.2.2 =
        { s' with journal := s'.journal ++ p.notices message s.now published.1 }

namespace Producer

variable {p : Producer} {b : Wire Amqp.Broker} {context : TraceContext} {message : Message}
  {metadata : Metadata} {exchange : Option String} {s : Scene}

theorem settingsOf_cases (p : Producer) (name : String) :
    (∃ before settings after, p.settings = before ++ settings :: after ∧
      settings.messageType = name ∧ (∀ later ∈ after, later.messageType ≠ name) ∧
      p.settingsOf name = settings) ∨
    ((∀ settings ∈ p.settings, settings.messageType ≠ name) ∧
      p.settingsOf name =
        { ProducerSettings.ofMessageType name with persisted := p.persistent }) := by
  unfold settingsOf
  cases hfound : p.settings.reverse.find? (·.messageType == name) with
  | some settings =>
    obtain ⟨hname, after, before, hsplit, hafter⟩ := List.find?_eq_some_iff_append.1 hfound
    refine .inl ⟨before.reverse, settings, after.reverse, ?_, by simpa using hname,
      fun later hlater => ?_, rfl⟩
    · rw [← List.reverse_reverse p.settings, hsplit]
      simp
    · simpa using hafter later (List.mem_reverse.1 hlater)
  | none =>
    refine .inr ⟨fun settings hsettings => ?_, rfl⟩
    simpa using List.find?_eq_none.1 hfound settings (List.mem_reverse.2 hsettings)

theorem logs_foldl (s : Scene) (records : List LogRecord) :
    records.foldl Scene.log s = { s with logs := s.logs ++ records } := by
  induction records generalizing s with
  | nil => simp
  | cons record records ih =>
    rw [List.foldl_cons, ih]
    simp [Scene.log]

/-- Telling the observers is the last thing of all. -/
theorem exists_toldScene (p : Producer) (message : Message) (exchange : Option String)
    (result : Outcome) (s : Scene) :
    ∃ logs, p.toldScene message exchange result s =
      { s with logs, journal := s.journal ++ p.notices message s.now result } := by
  cases result with
  | error e =>
    refine ⟨s.logs, ?_⟩
    rw [notices, List.append_nil]
    rfl
  | ok _ =>
    refine ⟨s.logs ++ [publishedLog (p.target message.name exchange) message], ?_⟩
    unfold toldScene
    dsimp only
    rw [notify_eq]
    rfl

/-- What a publish over a wire to the broker comes to: telling the observers is the last thing. -/
theorem exists_publish (p : Producer) (b : Wire Amqp.Broker) (context : TraceContext)
    (metadata : Metadata) (exchange : Option String) (s : Scene) {encoded : Encoded}
    (hencoded : serialize message = .ok encoded) :
    let x := p.parcelFor context message metadata exchange encoded s
    let sent := p.send b x.target x.body x.properties s.broker
    ∃ s' : Scene, s'.now = s.now ∧ s'.journal = s.journal ∧ s'.broker = sent.2.2 ∧
      s'.recorder = { (p.sendingScene context message exchange s).recorder with
        opened := s.recorder.opened.filter (·.context != p.spanFor context message exchange s)
        ended := s.recorder.ended ++ [p.reportedSpan context message exchange s sent.1] } ∧
      p.publish b.inScene context message metadata exchange s =
        (sent.1, sent.2.1,
          { s' with journal := s'.journal ++ p.notices message s.now sent.1 }) := by
  intro x sent
  let s' := p.sentScene context message exchange s sent.1
    { p.sendingScene context message exchange s with broker := sent.2.2 }
  obtain ⟨logs, htold⟩ := p.exists_toldScene message exchange sent.1 s'
  refine ⟨{ s' with logs }, rfl, rfl, rfl, ?_, ?_⟩
  · exact finish_start s.recorder (p.publishSpan context message exchange) (Outcome.error? sent.1)
  · rw [publish_eq p b.inScene hencoded, send_inScene]
    exact congrArg (fun s'' => (sent.1, sent.2.1, s'')) htold

end Producer

open Producer in
/-- One publish, whatever the producer holds and whatever the broker answers. The way of a
connection to the broker is such a wire. -/
theorem publish_law (p : Producer) (context : TraceContext) (message : Message)
    (metadata : Metadata) (exchange : Option String) (s : Scene) :
    (∀ c : Connection, ∃ b : Wire Amqp.Broker, Producer.wire c = b.inScene) ∧
    ∀ b : Wire Amqp.Broker, PublishLaw p b context message metadata exchange s
      (p.publish b.inScene context message metadata exchange s) := by
  refine ⟨fun c => ⟨c.brokerWire, wire_eq_inScene c⟩, fun b => ?_⟩
  constructor
  case settings => exact p.settingsOf_cases message.name
  case target =>
    unfold target
    cases exchange with
    | none => rfl
    | some name => rfl
  case unwritten =>
    intro e hencoded
    refine ⟨?_, by rw [publish_of_error p hencoded, logs_foldl]⟩
    unfold serialize at hencoded
    split at hencoded
    · cases hencoded
    · next reason _ => exact ⟨reason, (Except.error.inj hencoded).symm⟩
  case sent =>
    intro encoded hencoded
    obtain ⟨s', -, -, hbroker, -, hpublished⟩ :=
      p.exists_publish b context metadata exchange s hencoded
    rw [hpublished]
    dsimp only
    rw [hbroker]
    exact sentOver_send b p (p.parcelFor context message metadata exchange encoded s) s.broker
  case span =>
    intro encoded hencoded
    obtain ⟨s', -, -, -, hrecorder, hpublished⟩ :=
      p.exists_publish b context metadata exchange s hencoded
    rw [hpublished]
    dsimp only
    rw [hrecorder]
    refine ⟨_, start_reportedSpan .., congrArg SpanStart.kind (start_reportedSpan ..),
      context_reportedSpan .., rfl, rfl, fun hnumbered => ?_, fun hok => ?_, fun e he => ?_⟩
    · exact filter_of_not_mem (context_start_not_mem hnumbered _)
    · rw [reportedSpan, hok]
      exact ⟨rfl, rfl⟩
    · rw [reportedSpan, he]
      exact ⟨rfl, rfl⟩
  case told =>
    intro encoded hencoded
    obtain ⟨s', hnow, hjournal, -, -, hpublished⟩ :=
      p.exists_publish b context metadata exchange s hencoded
    rw [hpublished]
    exact ⟨s', hnow, hjournal, rfl, rfl, rfl⟩

end MessageBus
