import Mathlib.Data.List.Chain
import MessageBus.Proofs.Consumer.Spans
import MessageBus.Proofs.Handler.Context
import MessageBus.Proofs.Producer.Envelope

/-!
# Traces across processes

A message is published below a span, and who handles it publishes the next one below the context he
was given, and so on. All spans on the way belong to one trace: the span of a delivery is below that
of the producer, whatever metadata the message has, and the next producer's is below the innermost
span around the handler. Main statement: `continuity_law`.
-/

set_option autoImplicit false

namespace MessageBus

open ConsumerSettings

/-! ## Publishing -/

/-- What the span of a publish is begun with. -/
def Producer.publishSpan (p : Producer) (context : TraceContext) (message : Message)
    (exchange : Option String) : SpanStart :=
  .producer tracingScope context (p.target message.name exchange).exchange.name
    (p.target message.name exchange).routingKey

/-- A message that is published in some scene. -/
structure Publication where
  producer : Producer
  connection : Connection
  context : TraceContext
  message : Message
  metadata : Metadata
  exchange : Option String
  scene : Scene
  fits : (scene.recorder.start (producer.publishSpan context message exchange)).1.Fits

namespace Publication

/-- The span under which it is published. -/
def span (x : Publication) : SpanContext :=
  x.producer.spanFor x.context x.message x.exchange x.scene

theorem yields_span (x : Publication) :
    (x.producer.publishSpan x.context x.message x.exchange).Yields x.span :=
  SpanRecorder.yields_start x.fits

/-- A delivery of the message, with properties, headers and body as they were sent off. -/
def Delivers (x : Publication) (d : Delivery) : Prop :=
  ∃ f ∈ (x.producer.publish (Producer.wire x.connection) x.context x.message x.metadata x.exchange
      x.scene).2.2.broker.frames.drop x.scene.broker.frames.length,
    ∃ ex key properties body tag redelivered, f.method = .publish ex key properties body ∧
      d = .ofPublished ex key tag redelivered properties body

/-- It carries the span, whatever the metadata are. -/
theorem Delivers.headers_eq {x : Publication} {d : Delivery} (h : x.Delivers d) :
    d.headers = some (Producer.headers x.metadata (some x.span)) := by
  obtain ⟨f, hf, ex, key, properties, body, tag, redelivered, hmethod, rfl⟩ := h
  cases hencoded : serialize x.message with
  | error e =>
    -- nothing is sent
    unfold Producer.publish at hf
    rw [hencoded] at hf
    dsimp only at hf
    rw [Producer.broker_logs, List.drop_length] at hf
    cases hf
  | ok encoded =>
    have hkind := (x.producer.recorded_publish x.connection x.context x.message x.metadata
      x.exchange x.scene hencoded).1.of_mem_drop hf
    rw [hmethod] at hkind
    rcases hkind with h | h | h
    · cases h
    · cases h
    · cases h
      rfl

/-- The span of the delivery is below that of the producer. -/
theorem Delivers.parent_eq {x : Publication} {d : Delivery} (h : x.Delivers d)
    (hvalid : x.span.Valid) (names : TopologyNames) :
    (deliverySpan names d).parent = some x.span := by
  have hheaders : d.headers.getD .empty = Producer.headers x.metadata (some x.span) := by
    rw [h.headers_eq]
    rfl
  show Tracing.extract (d.headers.getD .empty) = some x.span
  rw [hheaders]
  exact Tracing.extract_inject hvalid _

/-- A message that is published can be delivered, and is read as it was. -/
theorem exists_delivery {x : Publication} {registry : Registry}
    (hregistered : registry.find? x.message.name = some x.message.type)
    (hmessage : x.message.Readable)
    (hok : (x.producer.publish (Producer.wire x.connection) x.context x.message x.metadata
      x.exchange x.scene).1 = .ok ()) :
    ∃ d, x.Delivers d ∧ registry.deserialize d.data d.kind d.contentType = .ok x.message := by
  cases hencoded : serialize x.message with
  | error e =>
    unfold Producer.publish at hok
    rw [hencoded] at hok
    cases hok
  | ok encoded =>
    obtain ⟨f, hf, hmethod⟩ := (x.producer.recorded_publish x.connection x.context x.message
      x.metadata x.exchange x.scene hencoded).2 hok
    obtain ⟨-, hread⟩ := Registry.deserialize_serialize hregistered hmessage hencoded
    exact ⟨_, ⟨f, hf, _, _, _, _, 1, false, hmethod, rfl⟩, hread⟩

end Publication

/-! ## Handling -/

/-- In some turns of its processing a delivery was read, its span was begun, and in one pass of its
message through the pipeline the handler was given a context. -/
structure Processor.Hands (p : Processor) (d : Delivery) (message : Message) (es : List Turn)
    (span : SpanContext) (stays : List Behavior.Stay) (context : TraceContext) : Prop where
  read : p.registry.deserialize d.data d.kind d.contentType = .ok message
  rounds : ∃ before runs after passes handled, es = before ++ runs ++ after ∧
    spanEvents before = [.begins (deliverySpan p.names d) span] ∧
    Rounds p.settings (some span) (receivedOf d message) p.handlers passes runs handled ∧
    stays ∈ passes
  handler : ∃ v, stays[p.settings.behaviors.length]? = some v ∧ v.context = context

/-- From a publish to a handler. -/
structure Hop where
  published : Publication
  delivery : Delivery
  delivered : published.Delivers delivery
  processor : Processor
  /-- All behaviors trace, or pass on the context they were given. -/
  behaviors : ∀ b ∈ processor.settings.behaviors, b = .tracing ∨ b.PassesOn
  /-- The message as it was read. -/
  message : Message
  turns : List Turn
  /-- Every span has a context like that of its parent. -/
  yields : ∀ s ∈ begun (spanEvents turns), s.start.Yields s.context
  /-- The span of the delivery. -/
  span : SpanContext
  stays : List Behavior.Stay
  /-- The context that the handler was given. -/
  given : TraceContext
  hands : processor.Hands delivery message turns span stays given

namespace Hop

/-- The account of one hop: the span of the delivery is below that of the producer, and the handler
is given the context of the innermost span around it, in the same trace. -/
theorem spans (h : Hop)
    (hvalid : ∀ c, h.published.context = some c → c.Valid) :
    (deliverySpan h.processor.names h.delivery).parent = some h.published.span ∧
      h.span.trace = h.published.span.trace ∧ h.span.state = h.published.span.state ∧
      ∃ c cs, Behavior.SpansAround (receivedOf h.delivery h.message) h.processor.settings.behaviors
          h.stays cs ∧
        h.given = some c ∧ (h.span :: cs).getLast? = some c ∧ c.Valid ∧
        c.trace = h.span.trace ∧ c.state = h.span.state := by
  have hproducer : h.published.span.Valid := h.published.yields_span.valid hvalid
  have hparent := h.delivered.parent_eq hproducer h.processor.names
  obtain ⟨before, runs, after, passes, handled, hturns, hbefore, hrounds, hstays⟩ := h.hands.rounds
  obtain ⟨w, hw, hgiven⟩ := h.hands.handler
  have hyields := h.yields
  rw [hturns, spanEvents_append, spanEvents_append, begun_append, begun_append, hbefore] at hyields
  have hspan := hyields (.begun (deliverySpan h.processor.names h.delivery) h.span)
    (List.mem_append_left _ (List.mem_append_left _ List.mem_cons_self))
  have hvalidSpan : h.span.Valid := hspan.valid fun parent hp => by
    obtain rfl := Option.some.inj (hparent.symm.trans hp)
    exact hproducer
  -- the spans of the pass are among those of all rounds
  have hinside : ∀ s ∈ begun (spanEvents (Behavior.stayTurns h.stays)),
      s.start.Yields s.context := by
    intro s hs
    refine hyields s (List.mem_append_left _ (List.mem_append_right _ ?_))
    rw [hrounds.begun_eq]
    exact mem_begun_spansOf hstays hs
  obtain ⟨handler, -, es, r, hpass⟩ := hrounds.exists_pass h.stays hstays
  obtain ⟨v, inner, hv, hcontext, -⟩ := hpass.outermost
  have hthrough := hpass.through
  rw [hv] at hthrough hw hinside ⊢
  obtain ⟨c, cs, haround, hc, hrest⟩ :=
    Behavior.context_of_stays hthrough h.behaviors hw hcontext hinside hvalidSpan
  exact ⟨hparent, hspan.trace _ hparent, hspan.state _ hparent, c, cs, haround,
    hgiven.symm.trans hc, hrest⟩

end Hop

/-- The spans on a chain of hops. -/
structure ContinuityLaw (hops : List Hop) : Prop where
  /-- The span of a delivery is below that of its producer, ... -/
  parent : ∀ h ∈ hops, (deliverySpan h.processor.names h.delivery).parent = some h.published.span
  /-- ... has the trace of the first producer, ... -/
  trace : ∀ first, hops.head? = some first → ∀ h ∈ hops, h.span.trace = first.published.span.trace
  /-- ... and the state of its own. -/
  state : ∀ h ∈ hops, h.span.state = h.published.span.state
  /-- A producer's span is below the innermost of the spans around the handler that publishes. -/
  innermost : ∀ i h next, hops[i]? = some h → hops[i + 1]? = some next →
    ∃ cs, Behavior.SpansAround (receivedOf h.delivery h.message) h.processor.settings.behaviors
        h.stays cs ∧
      (next.published.producer.publishSpan next.published.context next.published.message
        next.published.exchange).parent = (h.span :: cs).getLast?

/-- Where every handler publishes with the context that it was given, all spans are in one trace. -/
theorem continuity_law (hops : List Hop)
    (hchain : hops.IsChain fun h next => next.published.context = h.given)
    (hfirst : ∀ first, hops.head? = some first → ∀ c, first.published.context = some c → c.Valid) :
    ContinuityLaw hops := by
  induction hops with
  | nil =>
    refine ⟨fun _ hh => ?_, fun _ hhead => ?_, fun _ hh => ?_, fun _ _ _ hh => ?_⟩
    · cases hh
    · cases hhead
    · cases hh
    · cases hh
  | cons h rest ih =>
    obtain ⟨hlink, hrest⟩ := List.isChain_cons.1 hchain
    obtain ⟨hparent, htrace, hstate, c, cs, haround, hgiven, hlast, hvalid, hcTrace, -⟩ :=
      h.spans (hfirst h rfl)
    have hcontext (next : Hop) (hnext : rest.head? = some next) :
        next.published.context = some c := (hlink next hnext).trans hgiven
    have hlaw : ContinuityLaw rest := ih hrest fun next hnext c' hc' => by
      obtain rfl := Option.some.inj ((hcontext next hnext).symm.trans hc')
      exact hvalid
    refine ⟨List.forall_mem_cons.2 ⟨hparent, hlaw.parent⟩, fun first hhead => ?_,
      List.forall_mem_cons.2 ⟨hstate, hlaw.state⟩, fun i h' next hh' hnext => ?_⟩
    · obtain rfl := Option.some.inj hhead
      refine List.forall_mem_cons.2 ⟨htrace, fun h' hh' => ?_⟩
      -- the next producer's span is in the trace of the context that was handed on
      obtain ⟨next, hnext⟩ : ∃ next, rest.head? = some next :=
        Option.ne_none_iff_exists'.1 (by simpa using List.ne_nil_of_mem hh')
      have hproducer : next.published.span.trace = c.trace :=
        next.published.yields_span.trace c (hcontext next hnext)
      rw [hlaw.trace next hnext h' hh', hproducer, hcTrace, htrace]
    · cases i with
      | zero =>
        obtain rfl := Option.some.inj hh'
        refine ⟨cs, haround, ?_⟩
        rw [hlast]
        refine hcontext next ?_
        rw [List.head?_eq_getElem?]
        exact hnext
      | succ i => exact hlaw.innermost i h' next hh' hnext

/-! ## A relay -/

/-- Consumers with a behavior that traces, inside of one that waits for nothing. -/
def relayProcessor : Processor :=
  .ofSettings
    { name := "relay", messageType := "HTTPRequestSent", retry := .once, handlerTimeout := none
      behaviors := [ScriptedBehavior.behavior { name := "outer" }, .tracing]
      handlers := [default] }
    ⟨Catalogue.usual⟩ []

/-- A span below another one. -/
def SpanContext.child (c : SpanContext) (span : Nat) : SpanContext := { c with span }

theorem SpanContext.Valid.child {c : SpanContext} (h : c.Valid) (span : Nat)
    (hne : span ≠ 0 := by decide) (hlt : span < 1 <<< 64 := by decide) : (c.child span).Valid :=
  ⟨h.trace_ne, h.trace_lt, hne, hlt, h.state⟩

theorem SpanContext.Valid.yields_child {c : SpanContext} (h : c.Valid) {s : SpanStart}
    (hs : s.parent = some c) (span : Nat) (hne : span ≠ 0 := by decide)
    (hlt : span < 1 <<< 64 := by decide) : s.Yields (c.child span) := by
  refine ⟨fun _ => h.child span hne hlt, fun parent hparent => ?_, fun parent hparent => ?_⟩
  · obtain rfl := Option.some.inj (hs.symm.trans hparent)
    rfl
  · obtain rfl := Option.some.inj (hs.symm.trans hparent)
    rfl

/-- What is asked there while a delivery is handled below a span. -/
def relayStays (received : Received) (span : SpanContext) : List Behavior.Stay :=
  [⟨some span, [⟨.note received.tag (.before "outer"), ()⟩],
      [⟨.note received.tag (.after "outer" (.ok ())), ()⟩], some (.ok ())⟩,
    ⟨some span, [⟨.startSpan (Behavior.handlerSpan (some span) received), span.child 3⟩],
      [⟨.finishSpan (span.child 3) none, ()⟩], some (.ok ())⟩,
    ⟨some (span.child 3), [], [], some (.ok ())⟩]

theorem stays_relay (received : Received) (span : SpanContext) :
    Behavior.Stays default received relayProcessor.settings.behaviors
      (relayStays received span) := by
  refine .passed ⟨_, _, rfl, rfl, rfl⟩ ?_ rfl (.inr ⟨_, _, rfl, rfl, rfl⟩)
  refine .passed ⟨_, _, rfl, rfl, rfl⟩ ?_ rfl (.inr ⟨_, _, rfl, rfl, rfl⟩)
  exact .handled ⟨rfl, rfl⟩

/-- A publish on its way to the handler of a relay. -/
def Publication.relay (x : Publication) (d : Delivery) (hd : x.Delivers d) (message : Message)
    (hread : relayProcessor.registry.deserialize d.data d.kind d.contentType = .ok message)
    (hvalid : x.span.Valid) : Hop where
  published := x
  delivery := d
  delivered := hd
  processor := relayProcessor
  behaviors := by
    refine List.forall_mem_cons.2 ⟨.inr (ScriptedBehavior.passesOn _ (by decide)), ?_⟩
    exact List.forall_mem_singleton.2 (.inl rfl)
  message
  turns := [⟨.startSpan (deliverySpan relayProcessor.names d), x.span.child 2⟩] ++
    (Behavior.stayTurns (relayStays (receivedOf d message) (x.span.child 2)) ++ []) ++ []
  yields := by
    have hparent := hd.parent_eq hvalid relayProcessor.names
    have hdelivery : (x.span.child 2).Valid := hvalid.child 2
    refine List.forall_mem_cons.2 ⟨hvalid.yields_child hparent 2, ?_⟩
    exact List.forall_mem_singleton.2 (hdelivery.yields_child rfl 3)
  span := x.span.child 2
  stays := relayStays (receivedOf d message) (x.span.child 2)
  given := some ((x.span.child 2).child 3)
  hands := by
    refine ⟨hread, ⟨_, _, _, _, .ok (), rfl, rfl, ?_, List.mem_singleton_self _⟩, _, rfl, rfl⟩
    have hpass := stays_relay (receivedOf d message) (x.span.child 2)
    exact .next (.unlimited rfl (.ends ⟨hpass, ⟨_, _, rfl, rfl, rfl⟩, rfl⟩ (.inl rfl))) .none

/-- A producer with a link to its broker. -/
def relayProducer : Producer := .ofSettings {} [] []

def relayConnection : Connection := { settings := {}, link := some 0, isConnected := true }

theorem ok_of_relayProducer (context : TraceContext) (metadata : Metadata) :
    (relayProducer.publish (Producer.wire relayConnection) context Catalogue.retriedRequest metadata
      none linkedScene).1 = .ok () := by
  cases context <;> rfl

theorem fits_relay (context : TraceContext) : (linkedScene.recorder.start
    (relayProducer.publishSpan context Catalogue.retriedRequest none)).1.Fits :=
  SpanRecorder.fits_start (by decide) (by decide)

/-- A message that it publishes, with metadata that look like a span. -/
def relayPublication (context : TraceContext) : Publication where
  producer := relayProducer
  connection := relayConnection
  context
  message := Catalogue.retriedRequest
  metadata := (Dict.empty.insert "traceparent" (.bool true)).insert "tracestate" (.text "a=b")
  exchange := none
  scene := linkedScene
  fits := fits_relay context

/-- The handler of one relay publishes for the next. -/
theorem continuity_law_relay : ∃ hops : List Hop, hops.length = 2 ∧
    (hops.IsChain fun h next => next.published.context = h.given) ∧
    (∀ first, hops.head? = some first → ∀ c, first.published.context = some c → c.Valid) ∧
    ContinuityLaw hops := by
  have hdelivered (context : TraceContext) : ∃ d, (relayPublication context).Delivers d ∧
      relayProcessor.registry.deserialize d.data d.kind d.contentType =
        .ok Catalogue.retriedRequest :=
    @Publication.exists_delivery (relayPublication context) _ rfl Catalogue.readable_retriedRequest
      (ok_of_relayProducer context _)
  have hfirst : (relayPublication none).span.Valid :=
    (Publication.yields_span _).valid fun _ hparent => nomatch hparent
  obtain ⟨d, hd, hread⟩ := hdelivered none
  have hgiven := (hfirst.child 2).child 3
  obtain ⟨d', hd', hread'⟩ := hdelivered (some (((relayPublication none).span.child 2).child 3))
  have hsecond : (relayPublication (some _)).span.Valid :=
    (Publication.yields_span _).valid fun _ hparent => Option.some.inj hparent ▸ hgiven
  have hchain : [(relayPublication none).relay d hd _ hread hfirst,
      (relayPublication _).relay d' hd' _ hread' hsecond].IsChain
        fun h next => next.published.context = h.given :=
    List.isChain_cons_cons.2 ⟨rfl, List.isChain_singleton _⟩
  have hnone : ∀ first, [(relayPublication none).relay d hd _ hread hfirst,
      (relayPublication _).relay d' hd' _ hread' hsecond].head? = some first →
        ∀ c, first.published.context = some c → c.Valid := by
    rintro first ⟨⟩ c ⟨⟩
  exact ⟨_, rfl, hchain, hnone, continuity_law _ hchain hnone⟩

end MessageBus
