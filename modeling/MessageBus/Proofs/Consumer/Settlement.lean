import MessageBus.Consumer.Processor
import MessageBus.Proofs.Task.Course

/-!
# How deliveries are settled

Whatever handlers and behaviors do, a delivery is settled at most once, and the one settlement is
the one its handling has earned: see `settlement_law`. The law is stated for the course of
`ConsumerSettings.process` in any surroundings, since the answers to its questions (the results of
the acknowledger, the state of the token, the time) are all that the surroundings have a say in.
-/

set_option autoImplicit false

namespace MessageBus

/-- What is done about a delivery. -/
inductive Deed where
  /-- It is settled, with a result. -/
  | settled (what : Settlement) (result : Outcome)
  /-- An observer is told of its message. -/
  | notified (observer : String) (message : Message)

namespace Turn

/-- The deed of a turn, if there is one. -/
def deed? : Turn → Option Deed
  | ⟨.settle what, result⟩ => some (.settled what result)
  | ⟨.note _ (.notified observer message), _⟩ => some (.notified observer message)
  | _ => none

/-- The call of the acknowledger in a turn, with its result. -/
def call? : Turn → Option (Settlement × Outcome)
  | ⟨.settle what, result⟩ => some (what, result)
  | _ => none

/-- The observers that a turn has found. -/
def observers? : Turn → Option (List String)
  | ⟨.observers, names⟩ => some names
  | _ => none

theorem deed?_eq_none {e : Turn} (h : e.query.isReserved = false) : e.deed? = none := by
  obtain ⟨q, x⟩ := e
  cases q
  case note tag what => cases what <;> first | rfl | cases h
  case settle what => cases h
  all_goals rfl

theorem call?_eq_none {e : Turn} (h : e.query.isReserved = false) : e.call? = none := by
  obtain ⟨q, x⟩ := e
  cases q
  case settle what => cases h
  all_goals rfl

theorem observers?_eq_none {e : Turn} (h : e.query.isReserved = false) : e.observers? = none := by
  obtain ⟨q, x⟩ := e
  cases q
  case observers => cases h
  all_goals rfl

end Turn

/-- The deeds of a course, in order. -/
def deeds (es : List Turn) : List Deed := es.filterMap Turn.deed?

/-- The calls of the acknowledger in a course, with their results. -/
def calls (es : List Turn) : List (Settlement × Outcome) := es.filterMap Turn.call?

/-- The observers that were looked up in a course, each time. -/
def lookups (es : List Turn) : List (List String) := es.filterMap Turn.observers?

@[simp] theorem deeds_append (es es' : List Turn) : deeds (es ++ es') = deeds es ++ deeds es' :=
  List.filterMap_append

@[simp] theorem calls_append (es es' : List Turn) : calls (es ++ es') = calls es ++ calls es' :=
  List.filterMap_append

@[simp] theorem lookups_append (es es' : List Turn) :
    lookups (es ++ es') = lookups es ++ lookups es' :=
  List.filterMap_append

/-- A course without deeds. -/
structure Idle (es : List Turn) : Prop where
  deeds : deeds es = []
  calls : calls es = []
  lookups : lookups es = []

theorem idle_of_unreserved {es : List Turn} (h : ∀ e ∈ es, e.query.isReserved = false) :
    Idle es where
  deeds := List.filterMap_eq_nil_iff.2 fun e he => Turn.deed?_eq_none (h e he)
  calls := List.filterMap_eq_nil_iff.2 fun e he => Turn.call?_eq_none (h e he)
  lookups := List.filterMap_eq_nil_iff.2 fun e he => Turn.observers?_eq_none (h e he)

theorem Idle.append {es es' : List Turn} (h : Idle es) (h' : Idle es') : Idle (es ++ es') := by
  constructor
  · rw [deeds_append, h.deeds, h'.deeds, List.append_nil]
  · rw [calls_append, h.calls, h'.calls, List.append_nil]
  · rw [lookups_append, h.lookups, h'.lookups, List.append_nil]

theorem Task.Unreserved.idle {α : Type} {t : Task α} {P : α → Prop} {es : List Turn} {a : α}
    (h : t.Unreserved P) (hc : t.Course es a) : Idle es :=
  idle_of_unreserved (h.of_course hc).1

theorem RetryPolicy.unreserved_run (p : RetryPolicy) {op : Nat → Task Outcome}
    (h : ∀ n, (op n).Unreserved fun _ => True) : (p.run op).Unreserved fun _ => True := by
  -- by induction on the retries that are left, whatever the number of the attempt is
  have hfrom : ∀ more attempt, (p.attemptFrom op more attempt).Unreserved fun _ => True := by
    intro more
    induction more with
    | zero => exact h
    | succ more ih =>
      intro attempt
      rw [attemptFrom, Task.unreserved_bind]
      refine (h attempt).mono fun result _ => ?_
      cases result with
      | ok _ => trivial
      | error e =>
        refine ⟨rfl, fun _ => ⟨rfl, fun _ => ⟨rfl, fun wake => ?_⟩⟩⟩
        cases wake with
        | elapsed => exact ih (attempt + 1)
        | cancelled after => trivial
  exact hfrom _ _

namespace ConsumerSettings

variable (s : ConsumerSettings) (context : TraceContext) (received : Received)

/-! ## Handlers -/

/-- Handlers and behaviors, retried and under a deadline, leave the delivery alone. -/
theorem unreserved_runHandler (handler : Handler) :
    (s.runHandler context received handler).Unreserved fun _ => True := by
  have hattempts : (s.retry.run fun _ =>
      Behavior.compose s.behaviors handler context received).Unreserved fun _ => True :=
    s.retry.unreserved_run fun _ => Handler.unreserved _ _ _
  unfold runHandler
  cases s.handlerTimeout with
  | none => exact hattempts
  | some limit =>
    refine (Task.unreserved_bind _ _ _).2 ((hattempts.cutOff _ []).mono fun result _ => ?_)
    cases result <;> trivial

/-- The runs of handlers in order, up to the first one that fails: their outcomes, and all turns of
them. -/
inductive HandlerRuns : List Handler → List Outcome → List Turn → Prop where
  | nil : HandlerRuns [] [] []
  | ok {handler : Handler} {rest : List Handler} {outcomes : List Outcome} {es es' : List Turn} :
      (s.runHandler context received handler).Course es (.ok ()) →
      HandlerRuns rest outcomes es' → HandlerRuns (handler :: rest) (.ok () :: outcomes) (es ++ es')
  | error {handler : Handler} {rest : List Handler} {e : BusError} {es es' : List Turn} :
      (s.runHandler context received handler).Course es (.error e) → Idle es' →
      HandlerRuns (handler :: rest) [.error e] (es ++ es')

variable {s context received}

theorem HandlerRuns.idle {handlers : List Handler} {outcomes : List Outcome} {es : List Turn}
    (h : HandlerRuns s context received handlers outcomes es) : Idle es := by
  induction h with
  | nil => exact ⟨rfl, rfl, rfl⟩
  | ok hc _ ih => exact ((s.unreserved_runHandler _ _ _).idle hc).append ih
  | error hc hes => exact ((s.unreserved_runHandler _ _ _).idle hc).append hes

/-- The handlers in order succeed if every run does. -/
theorem handlerRuns_of_course {handlers : List Handler} {es : List Turn} {result : Outcome}
    (h : (s.runHandlers context received handlers).Course es result) :
    ∃ outcomes, HandlerRuns s context received handlers outcomes es ∧
      succeeded result = outcomes.all succeeded := by
  induction handlers generalizing es with
  | nil =>
    obtain ⟨rfl, rfl⟩ := h
    exact ⟨[], .nil, rfl⟩
  | cons handler rest ih =>
    rw [runHandlers, Task.course_bind] at h
    obtain ⟨es₁, outcome, es₂, rfl, h₁, h₂⟩ := h
    -- the first handler that fails is the last one to run
    cases outcome with
    | ok _ =>
      obtain ⟨outcomes, hruns, hall⟩ := ih h₂
      exact ⟨.ok () :: outcomes, .ok h₁ hruns, by simpa [succeeded] using hall⟩
    | error e =>
      obtain ⟨_, _, rfl, rfl, rfl⟩ := h₂
      exact ⟨[.error e], .error h₁ ⟨rfl, rfl, rfl⟩, rfl⟩

/-! ## Settling -/

theorem deeds_notify {message : Message} {names : List String} {es : List Turn} {u : Unit}
    (h : (notify message names).Course es u) :
    calls es = [] ∧ lookups es = [] ∧ deeds es = names.map (.notified · message) := by
  induction names generalizing es with
  | nil =>
    obtain ⟨rfl, -⟩ := h
    exact ⟨rfl, rfl, rfl⟩
  | cons observer rest ih =>
    obtain ⟨_, es', rfl, h⟩ := h
    obtain ⟨hcalls, hlookups, hdeeds⟩ := ih h
    exact ⟨hcalls, hlookups, congrArg (Deed.notified observer message :: ·) hdeeds⟩

/-- The observers are looked up once, and each of them is told once, in order. -/
theorem deeds_notifyObservers {es : List Turn} {result : Outcome}
    (h : (do notifyObservers received; return .ok () : Task Outcome).Course es result) :
    result = .ok () ∧ calls es = [] ∧ ∃ names, lookups es = [names] ∧
      deeds es = names.map (.notified · received.message) := by
  obtain ⟨names, es', rfl, h⟩ := h
  obtain ⟨es₁, _, es₂, rfl, htold, rfl, rfl⟩ := (Task.course_bind _ _ _ _).1 h
  obtain ⟨hcalls, hlookups, hdeeds⟩ := deeds_notify htold
  rw [List.append_nil]
  exact ⟨rfl, hcalls, names, congrArg (names :: ·) hlookups, hdeeds⟩

/-- What a course does about a message: besides the calls of the acknowledger, and after them, the
observers are told of it, or they are not. -/
structure Tells (message : Message) (told : Prop) (es : List Turn) : Prop where
  all : told → ∃ names, lookups es = [names] ∧
    deeds es = (calls es).map (fun c => .settled c.1 c.2) ++ names.map (.notified · message)
  none : ¬told → deeds es = (calls es).map fun c => .settled c.1 c.2

theorem Tells.congr {message : Message} {told told' : Prop} {es es' : List Turn}
    (h : Tells message told es) (hc : calls es' = calls es) (hd : deeds es' = deeds es)
    (hl : lookups es' = lookups es) (ht : told' ↔ told) : Tells message told' es' := by
  constructor
  · intro htold
    rw [hc, hd, hl]
    exact h.all (ht.1 htold)
  · intro htold
    rw [hc, hd]
    exact h.none fun hn => htold (ht.2 hn)

/-- The settlement of a delivery whose body was read. -/
theorem course_settle {settles handled : Bool} {es : List Turn} {result : Outcome}
    (h : (settle settles handled received).Course es result) :
    calls es = (if settles then [(if handled then .ack else .nack true, result)] else []) ∧
      (settles = false → result = .ok ()) ∧
      Tells received.message (handled = true ∧ result = .ok ()) es := by
  cases settles <;> cases handled
  · -- nobody settles, and a handler failed
    obtain ⟨rfl, rfl⟩ := h
    exact ⟨rfl, fun _ => rfl, ⟨fun ht => (nomatch ht.1), fun _ => rfl⟩⟩
  · -- nobody settles, and all handlers succeeded
    obtain ⟨rfl, hcalls, names, hlookups, hdeeds⟩ := deeds_notifyObservers h
    refine ⟨hcalls, fun _ => rfl, ⟨fun _ => ⟨names, hlookups, ?_⟩, fun hn => absurd ⟨rfl, rfl⟩ hn⟩⟩
    rw [hcalls, hdeeds]
    rfl
  · -- the delivery is handed back
    obtain ⟨_, _, rfl, result, _, rfl, rfl, rfl⟩ := h
    exact ⟨rfl, fun h => (nomatch h), ⟨fun ht => (nomatch ht.1), fun _ => rfl⟩⟩
  · -- the delivery is acknowledged, and only then the observers are told
    obtain ⟨answer, es, rfl, h⟩ := h
    cases answer with
    | error e =>
      obtain ⟨rfl, rfl⟩ := h
      exact ⟨rfl, fun h => (nomatch h), ⟨fun ht => (nomatch ht.2), fun _ => rfl⟩⟩
    | ok _ =>
      obtain ⟨_, es, rfl, h⟩ := h
      obtain ⟨rfl, hcalls, names, hlookups, hdeeds⟩ := deeds_notifyObservers h
      refine ⟨congrArg ((Settlement.ack, Except.ok ()) :: ·) hcalls, fun _ => rfl,
        ⟨fun _ => ⟨names, hlookups, ?_⟩, fun hn => absurd ⟨rfl, rfl⟩ hn⟩⟩
      show Deed.settled .ack (.ok ()) :: deeds es = (_ :: calls es).map _ ++ _
      rw [hcalls, hdeeds]
      rfl

end ConsumerSettings

/-- The settlement of deliveries whose body cannot be read. -/
def Undecodable.settlement? : Undecodable → Option Settlement
  | reject => some (.nack false)
  | ack => some .ack
  | ignore => none

namespace ConsumerSettings

variable {s : ConsumerSettings}

theorem course_settleUndecodable {delivery : Delivery} {es : List Turn} {result : Outcome}
    (h : (s.settleUndecodable delivery).Course es result) :
    calls es = (if s.autoAck then [] else s.undecodable.settlement?.toList.map (·, result)) ∧
      (calls es = [] → result = .ok ()) ∧ deeds es = (calls es).map fun c => .settled c.1 c.2 := by
  unfold settleUndecodable at h
  cases hauto : s.autoAck with
  | true =>
    rw [hauto] at h
    obtain ⟨rfl, rfl⟩ := h
    exact ⟨rfl, fun _ => rfl, rfl⟩
  | false =>
    rw [hauto] at h
    cases hpolicy : s.undecodable with
    | reject =>
      rw [hpolicy] at h
      obtain ⟨_, _, rfl, rfl, rfl⟩ := h
      exact ⟨rfl, fun h => (nomatch h), rfl⟩
    | ack =>
      rw [hpolicy] at h
      obtain ⟨_, _, rfl, rfl, rfl⟩ := h
      exact ⟨rfl, fun h => (nomatch h), rfl⟩
    | ignore =>
      rw [hpolicy] at h
      obtain ⟨_, _, rfl, rfl, rfl⟩ := h
      exact ⟨rfl, fun _ => rfl, rfl⟩

/-! ## A delivery from its first to its last turn -/

theorem unreserved_logAll (records : List LogRecord) :
    (logAll records).Unreserved fun _ => True := by
  induction records with
  | nil => trivial
  | cons r rest ih => exact ⟨rfl, fun _ => ih⟩

variable {registry : Registry} {names : TopologyNames} {handlers : List Handler}
  {delivery : Delivery} {es : List Turn} {result : Outcome}

/-- Before the body is read nothing is done about the delivery. -/
theorem course_process (h : (s.process registry names handlers delivery).Course es result) :
    ∃ before span es', es = before ++ es' ∧ Idle before ∧
      (match registry.deserialize delivery.data delivery.kind delivery.contentType with
        | .error e => do
          Task.log (.error "consumer" "failure to deserialize the delivery"
            [("error", .text e.message), ("kind", .text delivery.kind),
              ("queue", .text names.queue)])
          let result ← s.settleUndecodable delivery
          Task.finishSpan span (some e)
          return result
        | .ok message => do
          let handled ← s.runHandlers (some span) (receivedOf delivery message) handlers
          let result ← settle (!s.autoAck) (succeeded handled) (receivedOf delivery message)
          Task.finishSpan span (spanError (!s.autoAck) handled result)
          return result : Task Outcome).Course es' result := by
  obtain ⟨es₁, _, _, rfl, hlog, span, _, rfl, _, es', rfl, hbody⟩ :=
    (Task.course_bind _ _ _ _).1 h
  refine ⟨es₁ ++ [_, _], span, es', (List.append_assoc es₁ [_, _] es').symm, ?_, hbody⟩
  exact ((unreserved_logAll _).idle hlog).append ⟨rfl, rfl, rfl⟩

theorem course_process_error {e : BusError}
    (hread : registry.deserialize delivery.data delivery.kind delivery.contentType = .error e)
    (h : (s.process registry names handlers delivery).Course es result) :
    ∃ before settling after, es = before ++ settling ++ after ∧ Idle before ∧ Idle after ∧
      (s.settleUndecodable delivery).Course settling result := by
  obtain ⟨before, span, es', rfl, hbefore, hbody⟩ := course_process h
  rw [hread] at hbody
  obtain ⟨x, _, rfl, hrest⟩ := hbody
  obtain ⟨settling, _, _, rfl, hsettling, y, _, rfl, rfl, rfl⟩ :=
    (Task.course_bind (s.settleUndecodable delivery) _ _ _).1 hrest
  refine ⟨before ++ [⟨_, x⟩], settling, [⟨_, y⟩], by simp, ?_, ⟨rfl, rfl, rfl⟩, hsettling⟩
  exact hbefore.append ⟨rfl, rfl, rfl⟩

theorem course_process_ok {message : Message}
    (hread : registry.deserialize delivery.data delivery.kind delivery.contentType = .ok message)
    (h : (s.process registry names handlers delivery).Course es result) :
    ∃ span handled before runs settling after, es = before ++ runs ++ (settling ++ after) ∧
      Idle before ∧ Idle after ∧
      (s.runHandlers (some span) (receivedOf delivery message) handlers).Course runs handled ∧
      (settle (!s.autoAck) (succeeded handled) (receivedOf delivery message)).Course settling
        result := by
  obtain ⟨before, span, es', rfl, hbefore, hbody⟩ := course_process h
  rw [hread] at hbody
  obtain ⟨runs, handled, _, rfl, hruns, hrest⟩ := (Task.course_bind _ _ _ _).1 hbody
  obtain ⟨settling, _, _, rfl, hsettling, _, _, rfl, rfl, rfl⟩ := (Task.course_bind _ _ _ _).1 hrest
  exact ⟨span, handled, before, runs, settling, [_], (List.append_assoc _ _ _).symm, hbefore,
    ⟨rfl, rfl, rfl⟩, hruns, hsettling⟩

/-- A delivery whose body cannot be read is handled in the same way whatever the handlers and
behaviors are, so none of them is run. -/
theorem process_eq_of_error {e : BusError}
    (hread : registry.deserialize delivery.data delivery.kind delivery.contentType = .error e)
    (behaviors : List Behavior) (others : List Handler) :
    ({ s with behaviors }).process registry names others delivery =
      s.process registry names handlers delivery := by
  unfold process
  simp only [hread]
  rfl

end ConsumerSettings

/-! ## The law -/

/-- What is done about a delivery in a course of its handling, and with which result. -/
structure SettlementLaw (p : Processor) (delivery : Delivery) (es : List Turn) (result : Outcome) :
    Prop where
  /-- Where the broker acknowledges by itself, the acknowledger is not called. -/
  autoAck : p.settings.autoAck = true → calls es = []
  /-- Otherwise a delivery whose body cannot be read is settled as the settings say. -/
  undecodable : ∀ e,
    p.registry.deserialize delivery.data delivery.kind delivery.contentType = .error e →
      deeds es = (calls es).map (fun c => .settled c.1 c.2) ∧
      (p.settings.autoAck = false →
        calls es = p.settings.undecodable.settlement?.toList.map (·, result))
  /-- A delivery whose body can be read is handed to the handlers, and there is one call of the
  acknowledger for it, whatever its result. The observers are told once all handlers succeeded and
  nothing is left to acknowledge. -/
  decoded : ∀ message,
    p.registry.deserialize delivery.data delivery.kind delivery.contentType = .ok message →
      ∃ span outcomes before runs after, es = before ++ runs ++ after ∧
        p.settings.HandlerRuns (some span) (ConsumerSettings.receivedOf delivery message)
          p.handlers outcomes runs ∧
        (p.settings.autoAck = false →
          calls es = [(if outcomes.all ConsumerSettings.succeeded then .ack else .nack true,
            result)]) ∧
        ConsumerSettings.Tells message
          (outcomes.all ConsumerSettings.succeeded = true ∧
            (p.settings.autoAck = true ∨ calls es = [(.ack, .ok ())])) es
  /-- The result is that of the call, if there is one. -/
  result_eq : result = ((calls es).head?.map Prod.snd).getD (.ok ())

theorem settlementLaw_of_error {p : Processor} {delivery : Delivery} {es : List Turn}
    {result : Outcome} {e : BusError}
    (hread : p.registry.deserialize delivery.data delivery.kind delivery.contentType = .error e)
    (h : (p.settings.process p.registry p.names p.handlers delivery).Course es result) :
    SettlementLaw p delivery es result := by
  obtain ⟨before, settling, after, rfl, hbefore, hafter, hsettling⟩ :=
    ConsumerSettings.course_process_error hread h
  obtain ⟨hcalls, hresult, hdeeds⟩ := ConsumerSettings.course_settleUndecodable hsettling
  -- nothing is done about the delivery before and after it is settled
  have hc : calls (before ++ settling ++ after) = calls settling := by
    simp [hbefore.calls, hafter.calls]
  have hd : deeds (before ++ settling ++ after) = deeds settling := by
    simp [hbefore.deeds, hafter.deeds]
  constructor
  · intro hauto
    rw [hc, hcalls, if_pos hauto]
  · intro e' _
    refine ⟨by rw [hc, hd, hdeeds], fun hauto => ?_⟩
    rw [hc, hcalls, if_neg (by simp [hauto])]
  · intro message hok
    rw [hread] at hok
    cases hok
  · rw [hc]
    cases hs : calls settling with
    | nil => exact hresult hs
    | cons c cs =>
      have hmem : c ∈ calls settling := by simp [hs]
      rw [hcalls] at hmem
      split at hmem
      · cases hmem
      · obtain ⟨what, -, rfl⟩ := List.mem_map.1 hmem
        rfl

theorem settlementLaw_of_ok {p : Processor} {delivery : Delivery} {es : List Turn}
    {result : Outcome} {message : Message}
    (hread : p.registry.deserialize delivery.data delivery.kind delivery.contentType = .ok message)
    (h : (p.settings.process p.registry p.names p.handlers delivery).Course es result) :
    SettlementLaw p delivery es result := by
  obtain ⟨span, handled, before, runs, settling, after, rfl, hbefore, hafter, hruns, hsettling⟩ :=
    ConsumerSettings.course_process_ok hread h
  obtain ⟨outcomes, houtcomes, hall⟩ := ConsumerSettings.handlerRuns_of_course hruns
  obtain ⟨hcalls, hresult, htells⟩ := ConsumerSettings.course_settle hsettling
  -- nothing is done about the delivery before and after it is settled, the handlers included
  have hc : calls (before ++ runs ++ (settling ++ after)) = calls settling := by
    simp [hbefore.calls, hafter.calls, houtcomes.idle.calls]
  have hd : deeds (before ++ runs ++ (settling ++ after)) = deeds settling := by
    simp [hbefore.deeds, hafter.deeds, houtcomes.idle.deeds]
  have hl : lookups (before ++ runs ++ (settling ++ after)) = lookups settling := by
    simp [hbefore.lookups, hafter.lookups, houtcomes.idle.lookups]
  rw [hall] at hcalls htells
  constructor
  · intro hauto
    rw [hc, hcalls, hauto]
    rfl
  · intro e he
    rw [hread] at he
    cases he
  · intro message' hok
    rw [hread] at hok
    cases hok
    refine ⟨span, outcomes, before, runs, settling ++ after, rfl, houtcomes, fun hauto => ?_, ?_⟩
    · rw [hc, hcalls, hauto]
      rfl
    · refine htells.congr hc hd hl (and_congr_right fun hsucceeded => ?_)
      rw [hc, hcalls, hsucceeded]
      cases hauto : p.settings.autoAck with
      | true => simp [hresult (by rw [hauto]; rfl)]
      | false => simp
  · rw [hc]
    cases hauto : p.settings.autoAck with
    | true =>
      rw [hauto] at hcalls hresult
      rw [hcalls]
      exact hresult rfl
    | false =>
      rw [hauto] at hcalls
      rw [hcalls]
      rfl

theorem settlementLaw_of_course {p : Processor} {j : Job} {es : List Turn} {result : Outcome}
    (h : (p.work j).Course es result) : SettlementLaw p j.delivery es result := by
  cases hread : p.registry.deserialize j.delivery.data j.delivery.kind j.delivery.contentType with
  | error e => exact settlementLaw_of_error hread h
  | ok message => exact settlementLaw_of_ok hread h

/-- The handling of a delivery comes to an end in all surroundings, and obeys the law of settlement.
No handler and no behavior has a part in it if the body cannot be read. -/
theorem settlement_law (p : Processor) (j : Job) {σ : Type}
    (reply : σ → (q : Query) → q.Answer × σ) (s : σ) :
    SettlementLaw p j.delivery ((p.work j).play reply s).1 ((p.work j).play reply s).2.1 ∧
      ∀ e, p.registry.deserialize j.delivery.data j.delivery.kind j.delivery.contentType =
          .error e → ∀ behaviors handlers,
        ({ p with settings := { p.settings with behaviors }, handlers } : Processor).work j =
          p.work j := by
  refine ⟨settlementLaw_of_course (Task.course_play reply s (p.work j)), ?_⟩
  intro e he behaviors handlers
  exact ConsumerSettings.process_eq_of_error he behaviors handlers

end MessageBus
