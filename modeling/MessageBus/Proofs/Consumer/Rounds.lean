import MessageBus.Consumer.Processing
import MessageBus.Proofs.Handler.Spans
import MessageBus.Proofs.Retry.Attempts

/-!
# Passes through a pipeline

What a consumer does with a message it has read is a series of passes, each one a call of a handler
with all behaviors around it: `Tries` for the attempts at one handler, `Served` for one handler with
its deadline, and `Rounds` for all handlers. A pass may be cut short only where a deadline comes,
and then its spans are abandoned. So spans begin in passes only, what is ended was begun there, and
every span of a behavior that traces has been reported (`Rounds.accounted`).
-/

set_option autoImplicit false

namespace MessageBus

/-- Attempts under a policy, from number `attempt` on with so many more in hand, the last of which
may be cut short, or the wait after it. `Call` says what an attempt asks and what comes of it. -/
inductive RetryPolicy.Tries {τ : Type} (p : RetryPolicy)
    (Call : τ → List Turn → Option Outcome → Prop) :
    (more attempt : Nat) → List τ → List Turn → Option Outcome → Prop where
  | ends {more attempt : Nat} {x : τ} {es : List Turn} {result : Outcome}
      (h : Call x es (some result)) (hlast : more = 0 ∨ result = .ok ()) :
      Tries p Call more attempt [x] es (some result)
  | cut {more attempt : Nat} {x : τ} {es : List Turn} (h : Call x es none) :
      Tries p Call more attempt [x] es none
  /-- The wait after a failure is ended by the token. -/
  | stops {more attempt : Nat} {x : τ} {es : List Turn} {e : BusError}
      {millis after : Nat} (h : Call x es (some (.error e))) :
      Tries p Call (more + 1) attempt [x]
        (es ++ p.turnsBetween attempt e millis (.cancelled after)) (some (.error e))
  /-- The wait after a failure is cut short. -/
  | rests {more attempt : Nat} {x : τ} {es : List Turn} {e : BusError} {millis : Nat}
      (h : Call x es (some (.error e))) :
      Tries p Call (more + 1) attempt [x] (es ++ p.turnsAfter attempt e millis) none
  | again {more attempt : Nat} {x : τ} {xs : List τ} {es es' : List Turn} {e : BusError}
      {millis : Nat} {r : Option Outcome} (h : Call x es (some (.error e)))
      (hrest : Tries p Call more (attempt + 1) xs es' r) :
      Tries p Call (more + 1) attempt (x :: xs)
        (es ++ p.turnsBetween attempt e millis .elapsed ++ es') r

theorem RetryPolicy.tries_of_reaches {τ : Type} (p : RetryPolicy)
    {Call : τ → List Turn → Option Outcome → Prop} {op : Task Outcome}
    (hop : ∀ es r, op.Reaches es r → ∃ x, Call x es r) {more attempt : Nat} {es : List Turn}
    {r : Option Outcome} (h : (p.attemptFrom (fun _ => op) more attempt).Reaches es r) :
    ∃ xs, Tries p Call more attempt xs es r := by
  induction more generalizing attempt es r with
  | zero =>
    obtain ⟨x, hx⟩ := hop es r h
    cases r with
    | none => exact ⟨[x], .cut hx⟩
    | some result => exact ⟨[x], .ends hx (.inl rfl)⟩
  | succ more ih =>
    rw [attemptFrom] at h
    rcases (Task.reaches_bind _ _ _ _).1 h with ⟨rfl, hcut⟩ | ⟨es₁, result, es₂, rfl, hfirst, hrest⟩
    · obtain ⟨x, hx⟩ := hop es none hcut
      exact ⟨[x], .cut hx⟩
    obtain ⟨x, hx⟩ := hop es₁ (some result) (Task.reaches_some.2 hfirst)
    cases result with
    | ok _ =>
      obtain ⟨rfl, rfl⟩ := hrest
      rw [List.append_nil]
      exact ⟨[x], .ends hx (.inr rfl)⟩
    | error e =>
      -- a line of the log, a look at the timer, and then the wait
      rcases hrest with ⟨hwait, -⟩ | ⟨⟨⟩, es₃, rfl, hrest⟩
      · cases hwait
      rcases hrest with ⟨hwait, -⟩ | ⟨millis, es₄, rfl, hrest⟩
      · cases hwait
      rcases hrest with ⟨-, rfl, rfl⟩ | ⟨wake, es₅, rfl, hrest⟩
      · exact ⟨[x], .rests hx⟩
      cases wake with
      | cancelled after =>
        obtain ⟨rfl, rfl⟩ := hrest
        exact ⟨[x], .stops hx⟩
      | elapsed =>
        obtain ⟨xs, hxs⟩ := ih hrest
        exact ⟨x :: xs, by simpa [turnsBetween, turnsAfter] using RetryPolicy.Tries.again hx hxs⟩

theorem RetryPolicy.Tries.exists_call {τ : Type} {p : RetryPolicy}
    {Call : τ → List Turn → Option Outcome → Prop} {more attempt : Nat} {xs : List τ}
    {es : List Turn} {r : Option Outcome} (h : p.Tries Call more attempt xs es r) :
    ∀ x ∈ xs, ∃ es r, Call x es r := by
  induction h with
  | ends h | cut h | stops h | rests h => exact List.forall_mem_singleton.2 ⟨_, _, h⟩
  | again h _ ih => exact List.forall_mem_cons.2 ⟨⟨_, _, h⟩, ih⟩

namespace ConsumerSettings

open Behavior

variable (s : ConsumerSettings) (context : TraceContext) (received : Received) (handler : Handler)

/-- A pass: a call of the handler with the behaviors around it. -/
structure Pass (stays : List Stay) (es : List Turn) (r : Option Outcome) : Prop where
  through : Stays handler received s.behaviors stays
  outermost : ∃ v inner, stays = v :: inner ∧ v.context = context ∧ v.result = r
  turns : es = stayTurns stays

/-- What a consumer does with one handler, in passes. -/
inductive Served : List (List Stay) → List Turn → Outcome → Prop where
  | unlimited {passes : List (List Stay)} {es : List Turn} {result : Outcome}
      (hnone : s.handlerTimeout = none)
      (h : s.retry.Tries (Pass s context received handler) (s.retry.attempts - 1) 1 passes es
        (some result)) :
      Served passes es result
  | inTime {passes : List (List Stay)} {es es' : List Turn} {result : Outcome} {limit : Duration}
      (hlimit : s.handlerTimeout = some limit)
      (h : s.retry.Tries (Pass s context received handler) (s.retry.attempts - 1) 1 passes es'
        (some result))
      (hes : List.Forall₂ Turn.Shortened es es') : Served passes es result
  /-- They are cut short at the deadline, and the spans that are open are abandoned. -/
  | late {passes : List (List Stay)} {es es' : List Turn} {limit : Duration} {wait : Turn}
      (hlimit : s.handlerTimeout = some limit)
      (h : s.retry.Tries (Pass s context received handler) (s.retry.attempts - 1) 1 passes es' none)
      (hes : List.Forall₂ Turn.Shortened es es') (hwait : wait.query.isWait = true) :
      Served passes (es ++ wait :: abandoning (contexts (openAfter [] (spanEvents es))))
        (.error (.handlerTimeout limit.toMillis))

/-- What a consumer does with its handlers, up to the first one that fails. -/
inductive Rounds : List Handler → List (List Stay) → List Turn → Outcome → Prop where
  | none : Rounds [] [] [] (.ok ())
  | next {handler : Handler} {rest : List Handler} {passes more : List (List Stay)}
      {es es' : List Turn} {result : Outcome}
      (h : Served s context received handler passes es (.ok ()))
      (hrest : Rounds rest more es' result) :
      Rounds (handler :: rest) (passes ++ more) (es ++ es') result
  | fails {handler : Handler} {rest : List Handler} {passes : List (List Stay)} {es : List Turn}
      {e : BusError} {record : LogRecord}
      (h : Served s context received handler passes es (.error e)) :
      Rounds (handler :: rest) passes (es ++ [⟨.log record, ()⟩]) (.error e)

variable {s context received handler}

theorem pass_of_reaches {es : List Turn} {r : Option Outcome}
    (h : (compose s.behaviors handler context received).Reaches es r) :
    ∃ stays, Pass s context received handler stays es r := by
  obtain ⟨v, inner, hstays, hcontext, hresult, hes⟩ := (reaches_compose _ _ _ _ _ _).1 h
  exact ⟨v :: inner, hstays, ⟨v, inner, rfl, hcontext, hresult⟩, hes⟩

theorem served_of_course {es : List Turn} {result : Outcome}
    (h : (s.runHandler context received handler).Course es result) :
    ∃ passes, Served s context received handler passes es result := by
  unfold runHandler at h
  have htries {es : List Turn} {r : Option Outcome} (hr : (s.retry.run fun _ =>
      compose s.behaviors handler context received).Reaches es r) :=
    s.retry.tries_of_reaches (fun _ _ => pass_of_reaches) hr
  cases hlimit : s.handlerTimeout with
  | none =>
    simp only [hlimit] at h
    obtain ⟨passes, hpasses⟩ := htries (Task.reaches_some.2 h)
    exact ⟨passes, .unlimited hlimit hpasses⟩
  | some limit =>
    simp only [hlimit] at h
    obtain ⟨es₁, r, es₂, rfl, hcut, hrest⟩ := (Task.course_bind _ _ _ _).1 h
    have hdeadline : Task.Deadlined _ [] es₁ r := Task.deadlined_of_course hcut
    cases hdeadline with
    | inTime hcourse hes =>
      obtain ⟨rfl, rfl⟩ := hrest
      obtain ⟨passes, hpasses⟩ := htries (Task.reaches_some.2 hcourse)
      rw [List.append_nil]
      exact ⟨passes, .inTime hlimit hpasses hes⟩
    | late hreaches hes hwait =>
      obtain ⟨rfl, rfl⟩ := hrest
      obtain ⟨passes, hpasses⟩ := htries hreaches
      rw [List.append_nil]
      exact ⟨passes, .late hlimit hpasses hes hwait⟩

theorem rounds_of_course {handlers : List Handler} {es : List Turn} {result : Outcome}
    (h : (s.runHandlers context received handlers).Course es result) :
    ∃ passes, Rounds s context received handlers passes es result := by
  induction handlers generalizing es with
  | nil =>
    obtain ⟨rfl, rfl⟩ := h
    exact ⟨[], .none⟩
  | cons handler rest ih =>
    obtain ⟨es₁, outcome, es₂, rfl, h₁, h₂⟩ := (Task.course_bind _ _ _ _).1 h
    obtain ⟨passes, hserved⟩ := served_of_course h₁
    -- the first handler that fails is the last one to run
    cases outcome with
    | ok _ =>
      obtain ⟨more, hmore⟩ := ih h₂
      exact ⟨passes ++ more, .next hserved hmore⟩
    | error e =>
      obtain ⟨_, _, rfl, rfl, rfl⟩ := h₂
      exact ⟨passes, .fails hserved⟩

/-! ## Spans in passes -/

/-- What happens to spans in some passes. -/
def spansOf (passes : List (List Stay)) : List SpanEvent :=
  passes.flatMap fun stays => spanEvents (stayTurns stays)

theorem spansOf_singleton (stays : List Stay) :
    spansOf [stays] = spanEvents (stayTurns stays) := by
  simp [spansOf]

theorem spansOf_cons (stays : List Stay) (passes : List (List Stay)) :
    spansOf (stays :: passes) = spanEvents (stayTurns stays) ++ spansOf passes := rfl

theorem spansOf_append (passes more : List (List Stay)) :
    spansOf (passes ++ more) = spansOf passes ++ spansOf more := List.flatMap_append

theorem mem_begun_spansOf {stays : List Stay} {passes : List (List Stay)} (h : stays ∈ passes)
    {span : Span} (hspan : span ∈ begun (spanEvents (stayTurns stays))) :
    span ∈ begun (spansOf passes) := by
  obtain ⟨v, hv, hbegun⟩ := List.mem_filterMap.1 hspan
  exact List.mem_filterMap.2 ⟨v, List.mem_flatMap.2 ⟨stays, h, hv⟩, hbegun⟩

section Tries

variable {more attempt : Nat} {passes : List (List Stay)} {es : List Turn} {r : Option Outcome}

/-- Between attempts nothing happens to spans. -/
theorem spanEvents_tries
    (h : s.retry.Tries (Pass s context received handler) more attempt passes es r) :
    spanEvents es = spansOf passes := by
  induction h with
  | ends h | cut h => rw [spansOf_singleton, h.turns]
  | stops h | rests h =>
    rw [spansOf_singleton, spanEvents_append, h.turns]
    exact List.append_nil _
  | again h _ ih =>
    rw [spansOf_cons, spanEvents_append, spanEvents_append, h.turns, ih]
    exact congrArg (· ++ _) (List.append_nil _)

theorem keepsOwn_tries
    (h : s.retry.Tries (Pass s context received handler) more attempt passes es r)
    (hown : AllOwn s.behaviors handler) : KeepsOwn (spansOf passes) := by
  induction h with
  | ends h | cut h | stops h | rests h =>
    rw [spansOf_singleton]
    exact h.through.keepsOwn hown
  | again h _ ih => exact (h.through.keepsOwn hown).append ih

theorem Pass.isSome {stays : List Stay} (h : Pass s context received handler stays es r)
    (hr : r.isSome = true) : ∀ w ∈ stays, w.result.isSome = true := by
  obtain ⟨v, inner, rfl, -, rfl⟩ := h.outermost
  exact h.through.isSome hr

/-- Attempts that come to a result have not been cut short. -/
theorem isSome_tries
    (h : s.retry.Tries (Pass s context received handler) more attempt passes es r)
    (hr : r.isSome = true) : ∀ stays ∈ passes, ∀ w ∈ stays, w.result.isSome = true := by
  induction h with
  | ends h | stops h => exact List.forall_mem_singleton.2 (h.isSome rfl)
  | cut | rests => cases hr
  | again h _ ih => exact List.forall_mem_cons.2 ⟨h.isSome rfl, ih hr⟩

theorem Pass.openAfter_eq {stays : List Stay} (h : Pass s context received handler stays es r)
    (hown : AllOwn s.behaviors handler) (hnone : NoneLeft s.behaviors handler)
    (hd : Distinct stays) (hr : r.isSome = true) :
    openAfter [] (spanEvents (stayTurns stays)) = [] := by
  obtain ⟨v, inner, rfl, -, rfl⟩ := h.outermost
  exact h.through.openAfter_eq hown hnone hd hr

theorem openAfter_tries
    (h : s.retry.Tries (Pass s context received handler) more attempt passes es r)
    (hown : AllOwn s.behaviors handler) (hnone : NoneLeft s.behaviors handler)
    (hd : (contexts (begun (spansOf passes))).Nodup) (hr : r.isSome = true) :
    openAfter [] (spansOf passes) = [] := by
  induction h with
  | ends h | stops h =>
    rw [spansOf_singleton] at hd ⊢
    exact h.openAfter_eq hown hnone hd rfl
  | cut | rests => cases hr
  | again h _ ih =>
    rw [spansOf_cons, begun_append, contexts_append] at hd
    rw [spansOf_cons, openAfter_append, h.openAfter_eq hown hnone hd.of_append_left rfl]
    exact ih hd.of_append_right hr

/-- The spans of a behavior that traces become what the work inside of it has become. -/
theorem traced_tries
    (h : s.retry.Tries (Pass s context received handler) more attempt passes es r)
    (hown : AllOwn s.behaviors handler) (hd : (contexts (begun (spansOf passes))).Nodup) :
    ∀ stays ∈ passes, ∀ i v, s.behaviors[i]? = some tracing → stays[i]? = some v →
      Traced received (Became (spansOf passes)) stays i v := by
  induction h with
  | ends h | cut h | stops h | rests h =>
    rw [spansOf_singleton] at hd ⊢
    exact List.forall_mem_singleton.2 fun i v hi hv => traced_of_stays h.through hown hd hi hv
  | again h hrest ih =>
    rw [spansOf_cons] at hd ⊢
    have hd' := hd
    rw [begun_append, contexts_append] at hd'
    refine List.forall_mem_cons.2 ⟨fun i v hi hv => ?_, fun stays hstays i v hi hv => ?_⟩
    · refine (traced_of_stays h.through hown hd'.of_append_left hi hv).mono ?_
      exact fun _ inner hinner hbecame => hbecame.before (h.isSome rfl inner hinner) _
    · refine (ih hd'.of_append_right stays hstays i v hi hv).mono ?_
      exact fun _ _ _ hbecame => hbecame.after (keepsOwn_tries hrest hown) hd

end Tries

theorem spanEvents_late {es : List Turn} {wait : Turn} (hwait : wait.query.isWait = true) :
    spanEvents (es ++ wait :: abandoning (contexts (openAfter [] (spanEvents es)))) =
      spanEvents es ++ abandonments (openAfter [] (spanEvents es)) := by
  have hquiet : wait.spanEvent? = none := by
    obtain ⟨q, x⟩ := wait
    cases q <;> first | rfl | cases hwait
  rw [spanEvents_append, spanEvents_cons, hquiet, spanEvents_abandoning, contexts, List.map_map]
  rfl

section Begun

variable {passes : List (List Stay)} {es : List Turn} {result : Outcome}

/-- Spans begin in passes only. -/
theorem Served.begun_eq (h : Served s context received handler passes es result) :
    begun (spanEvents es) = begun (spansOf passes) := by
  cases h with
  | unlimited _ h => rw [spanEvents_tries h]
  | inTime _ h hes => rw [spanEvents_of_shortened hes, spanEvents_tries h]
  | late _ h hes hwait =>
    rw [spanEvents_late hwait, begun_abandonments, spanEvents_of_shortened hes, spanEvents_tries h]

theorem Rounds.begun_eq {handlers : List Handler}
    (h : Rounds s context received handlers passes es result) :
    begun (spanEvents es) = begun (spansOf passes) := by
  induction h with
  | none => rfl
  | next h _ ih =>
    rw [spanEvents_append, begun_append, spansOf_append, begun_append, h.begun_eq, ih]
  | fails h =>
    rw [spanEvents_append, begun_append, h.begun_eq]
    exact List.append_nil _

/-- In every round the message passes through the pipeline under one context. -/
theorem Rounds.exists_pass {handlers : List Handler}
    (h : Rounds s context received handlers passes es result) :
    ∀ stays ∈ passes, ∃ handler ∈ handlers, ∃ es r, Pass s context received handler stays es r := by
  have hserved {handler : Handler} {passes : List (List Stay)} {es : List Turn} {result : Outcome}
      (h : Served s context received handler passes es result) :
      ∀ stays ∈ passes, ∃ es r, Pass s context received handler stays es r := by
    cases h with
    | unlimited _ h | inTime _ h _ | late _ h _ _ => exact h.exists_call
  induction h with
  | none => exact fun _ hstays => nomatch hstays
  | next h _ ih =>
    refine List.forall_mem_append.2 ⟨fun stays hstays => ?_, fun stays hstays => ?_⟩
    · exact ⟨_, List.mem_cons_self, hserved h stays hstays⟩
    · obtain ⟨handler, hhandler, hpass⟩ := ih stays hstays
      exact ⟨handler, List.mem_cons_of_mem _ hhandler, hpass⟩
  | fails h => exact fun stays hstays => ⟨_, List.mem_cons_self, hserved h stays hstays⟩

end Begun

/-- The account of what is done in some passes. -/
structure Accounted (s : ConsumerSettings) (received : Received) (neat : Prop)
    (passes : List (List Stay)) (es : List Turn) : Prop where
  /-- Only spans that begin in them are ended. -/
  own : KeepsOwn (spanEvents es)
  /-- If nobody leaves a span open then none is open in the end. -/
  closed : neat → (contexts (begun (spanEvents es))).Nodup → openAfter [] (spanEvents es) = []
  traced : (contexts (begun (spanEvents es))).Nodup → ∀ stays ∈ passes, ∀ i v,
    s.behaviors[i]? = some tracing → stays[i]? = some v →
      Traced received (Reported (spanEvents es)) stays i v

theorem Accounted.congr {neat neat' : Prop} {passes : List (List Stay)} {es es' : List Turn}
    (h : Accounted s received neat passes es) (hes : spanEvents es' = spanEvents es)
    (hneat : neat' → neat) : Accounted s received neat' passes es' := by
  refine ⟨?_, fun hneat' => ?_, ?_⟩
  all_goals rw [hes]
  · exact h.own
  · exact h.closed (hneat hneat')
  · exact h.traced

theorem accounted_nil (s : ConsumerSettings) (received : Received) (neat : Prop) :
    Accounted s received neat [] [] := by
  refine ⟨?_, fun _ _ => rfl, fun _ stays hstays => ?_⟩
  · intro c hc
    cases hc
  · cases hstays

theorem Accounted.append {neat neat' : Prop} {passes more : List (List Stay)} {es es' : List Turn}
    (h : Accounted s received neat passes es) (h' : Accounted s received neat' more es') :
    Accounted s received (neat ∧ neat') (passes ++ more) (es ++ es') := by
  refine ⟨?_, fun hneat hd => ?_, fun hd => ?_⟩
  · rw [spanEvents_append]
    exact h.own.append h'.own
  all_goals
    rw [spanEvents_append] at hd ⊢
    have hd' := hd
    rw [begun_append, contexts_append] at hd'
  · rw [openAfter_append, h.closed hneat.1 hd'.of_append_left]
    exact h'.closed hneat.2 hd'.of_append_right
  · refine List.forall_mem_append.2 ⟨fun stays hstays i v hi hv => ?_,
      fun stays hstays i v hi hv => ?_⟩
    · refine (h.traced hd'.of_append_left stays hstays i v hi hv).mono ?_
      exact fun _ _ _ hreported => hreported.before _
    · refine (h'.traced hd'.of_append_right stays hstays i v hi hv).mono ?_
      exact fun _ _ _ hreported => hreported.after h'.own hd

/-- Attempts that were not cut short. -/
theorem accounted_of_tries {more attempt : Nat} {passes : List (List Stay)} {es : List Turn}
    {result : Outcome}
    (h : s.retry.Tries (Pass s context received handler) more attempt passes es (some result))
    (hown : AllOwn s.behaviors handler) :
    Accounted s received (NoneLeft s.behaviors handler) passes es := by
  have hevents := spanEvents_tries h
  refine ⟨?_, ?_, ?_⟩
  all_goals rw [hevents]
  · exact keepsOwn_tries h hown
  · exact fun hnone hd => openAfter_tries h hown hnone hd rfl
  · intro hd stays hstays i v hi hv
    refine (traced_tries h hown hd stays hstays i v hi hv).mono fun _ inner hinner hbecame => ?_
    exact hbecame.reported (isSome_tries h rfl stays hstays inner hinner)

theorem Served.accounted {passes : List (List Stay)} {es : List Turn} {result : Outcome}
    (h : Served s context received handler passes es result)
    (hown : AllOwn s.behaviors handler) :
    Accounted s received (NoneLeft s.behaviors handler) passes es := by
  cases h with
  | unlimited _ h => exact accounted_of_tries h hown
  | inTime _ h hes => exact (accounted_of_tries h hown).congr (spanEvents_of_shortened hes) id
  | late _ h hes hwait =>
    have hevents := (spanEvents_of_shortened hes).trans (spanEvents_tries h)
    refine ⟨?_, ?_, ?_⟩
    all_goals rw [spanEvents_late hwait, hevents]
    · exact (keepsOwn_tries h hown).abandonments
    all_goals rw [begun_abandonments]
    · exact fun _ hd => (abandoned_all hd).1
    · intro hd stays hstays i v hi hv
      refine (traced_tries h hown hd stays hstays i v hi hv).mono fun sp inner _ hbecame => ?_
      exact (abandoned_all hd).2 sp inner.result hbecame

/-- All rounds together: every span of a behavior that traces has been reported. -/
theorem Rounds.accounted {handlers : List Handler} {passes : List (List Stay)} {es : List Turn}
    {result : Outcome} (h : Rounds s context received handlers passes es result)
    (hown : ∀ handler ∈ handlers, AllOwn s.behaviors handler) :
    Accounted s received (∀ handler ∈ handlers, NoneLeft s.behaviors handler) passes es := by
  induction h with
  | none => exact accounted_nil _ _ _
  | next h _ ih =>
    obtain ⟨hfirst, hrest⟩ := List.forall_mem_cons.1 hown
    exact ((h.accounted hfirst).append (ih hrest)).congr rfl List.forall_mem_cons.1
  | fails h =>
    have hlast := h.accounted (List.forall_mem_cons.1 hown).1
    refine hlast.congr ?_ fun hnone => (List.forall_mem_cons.1 hnone).1
    rw [spanEvents_append]
    exact List.append_nil _

end ConsumerSettings

end MessageBus
