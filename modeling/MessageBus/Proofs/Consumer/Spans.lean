import MessageBus.Message.Catalogue
import MessageBus.Proofs.Consumer.Rounds
import MessageBus.Proofs.Consumer.Settlement

/-!
# The spans of a delivery

A delivery has a span of its own, which is open while the delivery is worked on, and all other spans
begin in the passes of its message through the pipeline. `span_law` is the account of them: each one
is reported once, that of the delivery is the last, and all of them carry the outcome of the work
that they stand for. It is stated for the courses of a job, so it holds whatever else goes on
meanwhile; a recorder that serves others as well reports the same (`SpanRecorder.Account.about`).
-/

set_option autoImplicit false

namespace MessageBus

open scoped List

namespace ConsumerSettings

open Behavior

/-! ## Work without spans -/

theorem spanless_logAll (records : List LogRecord) : (logAll records).Spanless := by
  induction records with
  | nil => trivial
  | cons r rest ih => exact ⟨rfl, fun _ => ih⟩

theorem spanless_notify (message : Message) (names : List String) :
    (notify message names).Spanless := by
  induction names with
  | nil => trivial
  | cons observer rest ih => exact ⟨rfl, fun _ => ih⟩

theorem spanless_notifyObservers (received : Received) : (notifyObservers received).Spanless :=
  ⟨rfl, fun _ => spanless_notify _ _⟩

theorem spanless_settle (settles handled : Bool) (received : Received) :
    (settle settles handled received).Spanless := by
  cases settles <;> cases handled
  · trivial
  · exact (spanless_notifyObservers received).bind fun _ => trivial
  · exact ⟨rfl, fun _ => ⟨rfl, fun _ => trivial⟩⟩
  · refine ⟨rfl, fun answer => ?_⟩
    cases answer with
    | error e => trivial
    | ok _ => exact ⟨rfl, fun _ => (spanless_notifyObservers received).bind fun _ => trivial⟩

theorem spanless_settleUndecodable (s : ConsumerSettings) (delivery : Delivery) :
    (s.settleUndecodable delivery).Spanless := by
  unfold settleUndecodable
  cases s.autoAck with
  | true => trivial
  | false =>
    cases s.undecodable with
    | reject | ack | ignore => exact ⟨rfl, fun _ => trivial⟩

/-! ## The span around a delivery -/

variable {s : ConsumerSettings} {registry : Registry} {names : TopologyNames}
  {handlers : List Handler} {delivery : Delivery} {es : List Turn} {result : Outcome}

/-- A delivery whose body cannot be read has no other span. -/
theorem spanEvents_process_error {e : BusError}
    (hread : registry.deserialize delivery.data delivery.kind delivery.contentType = .error e)
    (h : (s.process registry names handlers delivery).Course es result) :
    ∃ span, spanEvents es =
      [.begins (deliverySpan names delivery) span, .ends span (.finished (some e))] := by
  unfold process at h
  simp only [hread] at h
  obtain ⟨es₁, _, _, rfl, hlog, span, _, rfl, _, _, rfl, _, _, rfl, hrest⟩ :=
    (Task.course_bind _ _ _ _).1 h
  obtain ⟨settling, _, _, rfl, hsettling, _, _, rfl, rfl, rfl⟩ :=
    (Task.course_bind (s.settleUndecodable delivery) _ _ _).1 hrest
  have hlogged := (spanless_logAll _).spanEvents_eq hlog
  have hsettled := (s.spanless_settleUndecodable delivery).spanEvents_eq hsettling
  refine ⟨span, ?_⟩
  simp [hlogged, hsettled, spanEvents_cons, Turn.spanEvent?]

/-- Where the body can be read the span is open while the handlers run, and while the delivery is
settled. -/
theorem spanEvents_process_ok {message : Message}
    (hread : registry.deserialize delivery.data delivery.kind delivery.contentType = .ok message)
    (h : (s.process registry names handlers delivery).Course es result) :
    ∃ span handled before runs after, es = before ++ runs ++ after ∧
      (s.runHandlers (some span) (receivedOf delivery message) handlers).Course runs handled ∧
      spanEvents before = [.begins (deliverySpan names delivery) span] ∧
      spanEvents after = [.ends span (.finished (spanError (!s.autoAck) handled result))] := by
  unfold process at h
  simp only [hread] at h
  obtain ⟨es₁, _, _, rfl, hlog, span, _, rfl, _, es₂, rfl, hbody⟩ :=
    (Task.course_bind _ _ _ _).1 h
  obtain ⟨runs, handled, _, rfl, hruns, hrest⟩ :=
    (Task.course_bind (s.runHandlers (some span) (receivedOf delivery message) handlers) _ _ _).1
      hbody
  obtain ⟨settling, _, _, rfl, hsettling, _, _, rfl, rfl, rfl⟩ := (Task.course_bind _ _ _ _).1 hrest
  have hlogged := (spanless_logAll _).spanEvents_eq hlog
  have hsettled := (spanless_settle _ _ _).spanEvents_eq hsettling
  have hes : ∀ (e e' last : Turn), es₁ ++ e :: e' :: (runs ++ (settling ++ [last])) =
      es₁ ++ [e, e'] ++ runs ++ (settling ++ [last]) := by simp
  refine ⟨span, handled, _, runs, _, hes _ _ _, hruns, ?_, ?_⟩
  · simp [hlogged, spanEvents_cons, Turn.spanEvent?]
  · simp [hsettled, spanEvents_cons, Turn.spanEvent?]

/-- The error of the call of the acknowledger, if one was made and failed. -/
def callError (es : List Turn) : Option BusError := (calls es).findSome? fun c => c.2.error?

/-- What the span of a delivery ends with, by the calls of the acknowledger. -/
theorem spanError_eq (handled : Outcome) (hauto : s.autoAck = true → calls es = [])
    (hcalled : s.autoAck = false → ∃ what, calls es = [(what, result)])
    (hresult : result = ((calls es).head?.map Prod.snd).getD (.ok ())) :
    spanError (!s.autoAck) handled result =
      (callError es).or (if s.autoAck then handled.error? else none) := by
  unfold callError
  cases h : s.autoAck with
  | true =>
    rw [hauto h] at hresult ⊢
    rw [hresult]
    rfl
  | false =>
    obtain ⟨what, hcalls⟩ := hcalled h
    rw [hcalls]
    cases result with
    | ok _ => rfl
    | error e => rfl

end ConsumerSettings

open ConsumerSettings

/-- The error that the span of a delivery ends with, where the handlers came to a result: that of
reading the body, else that of the call of the acknowledger, else, where there is no such call, that
of the handlers. -/
def Processor.deliveryError (p : Processor) (delivery : Delivery) (es : List Turn)
    (handled : Outcome) : Option BusError :=
  match p.registry.deserialize delivery.data delivery.kind delivery.contentType with
  | .error e => some e
  | .ok _ => (callError es).or (if p.settings.autoAck then handled.error? else none)

/-- The account of the spans of a delivery: its own span, the passes of its message through the
pipeline, and the result of the handlers. -/
structure SpanAccount (p : Processor) (delivery : Delivery) (es : List Turn) (span : SpanContext)
    (passes : List (List Behavior.Stay)) (handled : Outcome) : Prop where
  /-- The span of the delivery is the first to begin, and all others begin in passes. -/
  begun : begun (spanEvents es) =
    .begun (deliverySpan p.names delivery) span :: begun (spansOf passes)
  undecodable : ∀ e,
    p.registry.deserialize delivery.data delivery.kind delivery.contentType = .error e →
      passes = []
  /-- Where the body can be read the message passes under that span. In every pass each behavior
  that traces and is entered begins one span, below that of the context it was entered with, and the
  span was reported with the outcome of the work inside, or with none if that was cut short. -/
  decoded : ∀ message,
    p.registry.deserialize delivery.data delivery.kind delivery.contentType = .ok message →
      ∃ before runs after, es = before ++ runs ++ after ∧
        Rounds p.settings (some span) (receivedOf delivery message) p.handlers passes runs
          handled ∧
        ∀ stays ∈ passes, ∀ i v, p.settings.behaviors[i]? = some .tracing → stays[i]? = some v →
          Behavior.Traced (receivedOf delivery message) (Reported (spanEvents es)) stays i v
  /-- No span is reported twice, ... -/
  once : (contexts (reports [] (spanEvents es))).Nodup
  /-- ... each of them is reported, if handlers and behaviors leave none of their own open, ... -/
  all : (∀ handler ∈ p.handlers, Behavior.NoneLeft p.settings.behaviors handler) →
    contexts (reports [] (spanEvents es)) ~ contexts (MessageBus.begun (spanEvents es))
  /-- ... and the span of the delivery is the last. -/
  last : (reports [] (spanEvents es)).getLast? =
    some ((Span.begun (deliverySpan p.names delivery) span).finished
      (p.deliveryError delivery es handled))

section Account

variable {p : Processor} {j : Job} {es : List Turn} {result : Outcome}

theorem spanAccount_of_error {e : BusError}
    (hread : p.registry.deserialize j.delivery.data j.delivery.kind j.delivery.contentType =
      .error e)
    (h : (p.work j).Course es result) (hn : (contexts (begun (spanEvents es))).Nodup) :
    ∃ span, SpanAccount p j.delivery es span [] (.ok ()) := by
  obtain ⟨span, hes⟩ := spanEvents_process_error hread h
  have hown : KeepsOwn [] := fun _ hc => (nomatch hc)
  rw [hes] at hn
  obtain ⟨honce, hall, hlast⟩ :=
    @once_around [] span (deliverySpan p.names j.delivery) (.finished (some e)) hown hn
  refine ⟨span, ?_, fun _ _ => rfl, fun message hok => ?_, ?_, fun _ => ?_, ?_⟩
  · rw [hes]
    rfl
  · rw [hread] at hok
    cases hok
  all_goals rw [hes]
  · exact honce
  · exact hall rfl
  · unfold Processor.deliveryError
    rw [hread]
    exact hlast

theorem spanAccount_of_ok {message : Message}
    (hread : p.registry.deserialize j.delivery.data j.delivery.kind j.delivery.contentType =
      .ok message)
    (hown : ∀ handler ∈ p.handlers, Behavior.AllOwn p.settings.behaviors handler)
    (h : (p.work j).Course es result) (hn : (contexts (begun (spanEvents es))).Nodup) :
    ∃ span passes handled, SpanAccount p j.delivery es span passes handled := by
  have hlaw : SettlementLaw p j.delivery es result := settlementLaw_of_course h
  obtain ⟨span, handled, before, runs, after, rfl, hruns, hbefore, hafter⟩ :=
    spanEvents_process_ok hread h
  obtain ⟨passes, hrounds⟩ := rounds_of_course hruns
  have haccount := hrounds.accounted hown
  have hes : spanEvents (before ++ runs ++ after) =
      .begins (deliverySpan p.names j.delivery) span :: spanEvents runs ++
        [.ends span (.finished (spanError (!p.settings.autoAck) handled result))] := by
    rw [spanEvents_append, spanEvents_append, hbefore, hafter]
    rfl
  have hfront : (contexts (begun (spanEvents before ++ spanEvents runs))).Nodup := by
    rw [spanEvents_append, spanEvents_append, begun_append, contexts_append] at hn
    exact hn.of_append_left
  have hruns : (contexts (begun (spanEvents runs))).Nodup := by
    rw [begun_append, contexts_append] at hfront
    exact hfront.of_append_right
  have herror : spanError (!p.settings.autoAck) handled result =
      p.deliveryError j.delivery (before ++ runs ++ after) handled := by
    unfold Processor.deliveryError
    rw [hread]
    refine spanError_eq handled hlaw.autoAck (fun hauto => ?_) hlaw.result_eq
    obtain ⟨_, _, _, _, _, _, _, hcalls, _⟩ := hlaw.decoded message hread
    exact ⟨_, hcalls hauto⟩
  rw [hes] at hn
  obtain ⟨honce, hall, hlast⟩ := once_around haccount.own hn
  refine ⟨span, passes, handled, ?_, fun e he => ?_, fun message' hok => ?_, ?_, fun hnone => ?_,
    ?_⟩
  · rw [hes, begun_around, hrounds.begun_eq]
  · rw [hread] at he
    cases he
  · obtain rfl := Except.ok.inj (hread.symm.trans hok)
    refine ⟨before, runs, after, rfl, hrounds, fun stays hstays i v hi hv => ?_⟩
    refine (haccount.traced hruns stays hstays i v hi hv).mono fun _ _ _ hreported => ?_
    rw [spanEvents_append, spanEvents_append]
    exact (hreported.after haccount.own hfront).before _
  all_goals rw [hes]
  · exact honce
  · exact hall (haccount.closed hnone hruns)
  · rw [hlast, herror]
    rfl

/-- A job ends only spans that it has begun. -/
theorem keepsOwn_work
    (hown : ∀ handler ∈ p.handlers, Behavior.AllOwn p.settings.behaviors handler)
    (h : (p.work j).Course es result) : KeepsOwn (spanEvents es) := by
  cases hread : p.registry.deserialize j.delivery.data j.delivery.kind j.delivery.contentType with
  | error e =>
    obtain ⟨span, hes⟩ := spanEvents_process_error hread h
    have hnone : KeepsOwn [] := fun _ hc => (nomatch hc)
    rw [hes]
    exact hnone.around
  | ok message =>
    obtain ⟨span, handled, before, runs, after, rfl, hruns, hbefore, hafter⟩ :=
      spanEvents_process_ok hread h
    obtain ⟨passes, hrounds⟩ := rounds_of_course hruns
    rw [spanEvents_append, spanEvents_append, hbefore, hafter]
    exact (hrounds.accounted hown).own.around

end Account

/-- The spans of a job, however it goes. -/
structure SpanLaw (p : Processor) (j : Job) : Prop where
  /-- It ends only spans that it has begun. -/
  own : ∀ es result, (p.work j).Course es result → KeepsOwn (spanEvents es)
  /-- Where no two spans have the same context there is an account of all of them. -/
  accounts : ∀ es result, (p.work j).Course es result →
    (contexts (begun (spanEvents es))).Nodup →
      ∃ span passes handled, SpanAccount p j.delivery es span passes handled
  /-- A recorder gives no context twice, and whatever it does for others meanwhile, what it reports
  of the spans of the job is what happens to them in the job. -/
  shared : ∀ es result, (p.work j).Course es result → ∀ r vs r', SpanRecorder.Account r vs r' →
    r.Numbered → about (contexts (begun (spanEvents es))) vs = spanEvents es →
      (contexts (begun (spanEvents es))).Nodup ∧ ∃ reported, r'.ended = r.ended ++ reported ∧
        reported.filter (·.context ∈ contexts (begun (spanEvents es))) = reports [] (spanEvents es)
  /-- So it is where the job is done in a scene in which nothing else happens. -/
  recorded : ∀ (w : Situation) (s : Scene), s.recorder.Numbered →
    (contexts (begun (spanEvents ((p.work j).play (Scene.reply w) s).1))).Nodup ∧
    ((p.work j).run w s).2.recorder.ended =
      s.recorder.ended ++ reports [] (spanEvents ((p.work j).play (Scene.reply w) s).1)

/-- Every span of a delivery is reported once, with the outcome of its work, and that of the
delivery is the last: if only handlers and behaviors end no spans but their own. -/
theorem span_law (p : Processor) (j : Job)
    (hown : ∀ handler ∈ p.handlers, Behavior.AllOwn p.settings.behaviors handler) :
    SpanLaw p j := by
  refine ⟨fun es result h => keepsOwn_work hown h, fun es result h hn => ?_,
    fun es result _ r vs r' haccount hnumbered hmine => haccount.about hnumbered hmine,
    fun w s hnumbered => ?_⟩
  · cases hread : p.registry.deserialize j.delivery.data j.delivery.kind
      j.delivery.contentType with
    | error e =>
      obtain ⟨span, hspan⟩ := spanAccount_of_error hread h hn
      exact ⟨span, [], .ok (), hspan⟩
    | ok message => exact spanAccount_of_ok hread hown h hn
  · have haccount := recorder_play w (p.work j) s
    have hspared := haccount.spares hnumbered (keepsOwn_work hown (Task.course_play _ _ _))
    refine ⟨haccount.distinct, ?_⟩
    rw [Task.run_eq_play, haccount.ended]
    exact congrArg _ (reports_append_spans hspared [])

/-- A handler that fails at its first attempt and takes too long at the second, with behaviors
around it, the first of which traces. -/
def slowSettings : ConsumerSettings where
  name := "slow"
  messageType := "system.heart-beat V2"
  retry := { attempts := 2, delay := .ofMillis 10 }
  handlerTimeout := some (.ofMillis 50)
  behaviors := [.tracing, .logging, ScriptedBehavior.behavior { name := "inner" }]
  handlers := [ScriptedHandler.handler
    { counter := 0, name := "slow", script := [{ error := some .internal }, { sleep := some 90 }] }]

/-- Their consumer, which has one delivery to handle. -/
def slowProcessor : Processor := .ofSettings slowSettings ⟨Catalogue.usual⟩ []

def slowJob : Job where
  delivery := { kind := "system.heart-beat V2", data := Utf8.encode "[7]" }
  acknowledger := .scripted 1 none none
  token := 0

theorem allOwn_slowProcessor : ∀ handler ∈ slowProcessor.handlers,
    Behavior.AllOwn slowProcessor.settings.behaviors handler := by
  refine List.forall_mem_singleton.2 ⟨?_, (ScriptedHandler.spanless _).endsOwn⟩
  refine List.forall_mem_cons.2 ⟨Behavior.endsOwn_tracing, ?_⟩
  refine List.forall_mem_cons.2 ⟨Behavior.spanless_logging.endsOwn, ?_⟩
  exact List.forall_mem_singleton.2 (ScriptedBehavior.spanless _).endsOwn

theorem noneLeft_slowProcessor : ∀ handler ∈ slowProcessor.handlers,
    Behavior.NoneLeft slowProcessor.settings.behaviors handler := by
  refine List.forall_mem_singleton.2 ⟨?_, (ScriptedHandler.spanless _).leavesNone⟩
  refine List.forall_mem_cons.2 ⟨Behavior.leavesNone_tracing, ?_⟩
  refine List.forall_mem_cons.2 ⟨Behavior.spanless_logging.leavesNone, ?_⟩
  exact List.forall_mem_singleton.2 (ScriptedBehavior.spanless _).leavesNone

/-- The span of the first attempt ends with its error, that of the second is abandoned, and the
delivery is handed back. -/
theorem span_law_slow :
    (∀ handler ∈ slowProcessor.handlers,
      Behavior.AllOwn slowProcessor.settings.behaviors handler) ∧
    (∀ handler ∈ slowProcessor.handlers,
      Behavior.NoneLeft slowProcessor.settings.behaviors handler) ∧
    SpanLaw slowProcessor slowJob ∧
    (((slowProcessor.work slowJob).play
      (Scene.reply (slowJob.situation [])) {}).2.2.recorder.ended.map
        fun s => (s.start.kind, s.status)) =
      [(.internal, .error BusError.internal.message), (.internal, .unset), (.consumer, .ok)] :=
  ⟨allOwn_slowProcessor, noneLeft_slowProcessor,
    span_law slowProcessor slowJob allOwn_slowProcessor, by decide +kernel⟩

/-! ## Spans of others -/

/-- A behavior that ends the span of its context with an error of its own. -/
def meddling : Behavior where
  work context _ := do
    if let some span := context then Task.finishSpan span (some .internal)
    return .proceed context Task.done
  unreserved context _ := by
    cases context with
    | none => exact fun _ => trivial
    | some _ => exact ⟨rfl, fun _ _ => trivial⟩

/-- A behavior that begins a span and leaves it open. -/
def forgetful : Behavior where
  work context _ := do
    let _ ← Task.startSpan (.handler "app" context "step")
    return .proceed context Task.done
  unreserved _ _ := ⟨rfl, fun _ _ => trivial⟩

/-- A consumer with a handler that succeeds, and with another behavior inside one that traces. -/
def tracedProcessor (inner : Behavior) : Processor :=
  .ofSettings { slowSettings with
    handlerTimeout := none, behaviors := [.tracing, inner], handlers := [default] }
    ⟨Catalogue.usual⟩ []

/-- What it does with its delivery. -/
def tracedRun (inner : Behavior) : List Turn × Outcome × Scene :=
  ((tracedProcessor inner).work slowJob).play (Scene.reply (slowJob.situation [])) {}

/-- Neither hypothesis of the account can be spared: a span is reported with an error although the
work inside has succeeded, where a behavior ends it that has not begun it, and a span is never
reported that a behavior leaves open. -/
theorem spans_of_others :
    ((tracedRun meddling).2.1 = .ok () ∧
      (tracedRun meddling).2.2.recorder.ended.map (fun s => (s.start.kind, s.status)) =
        [(.internal, .error BusError.internal.message), (.consumer, .ok)]) ∧
    (tracedRun forgetful).2.1 = .ok () ∧
      (begun (spanEvents (tracedRun forgetful).1)).map (·.context.span) = [1, 2, 3] ∧
      (tracedRun forgetful).2.2.recorder.ended.map (·.context.span) = [2, 1] := by
  refine ⟨⟨?_, ?_⟩, ?_, ?_, ?_⟩ <;> decide +kernel

end MessageBus
