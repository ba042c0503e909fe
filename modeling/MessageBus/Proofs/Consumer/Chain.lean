import MessageBus.Proofs.Consumer.Deadline
import MessageBus.Proofs.Consumer.Roster
import MessageBus.Proofs.Consumer.Rounds

/-!
# The chain of handlers

The handlers of a delivery run one after the other: each is served with all its attempts before the
next one is started, and the first one that fails is the last. A chain says which handlers were
started, what each of them has done, and what came of it (`chain_of_course`). A handler is called at
most as often as it may be tried. It is called at least once, unless a behavior in front of it
answers by itself, or the deadline comes while a behavior in front of it is still waiting
(`Served.calls`). The handlers are those that were there when the first of them was about to run: a
delivery that has its permit may still have to wait before it begins, and whoever is connected
meanwhile takes part. Main statement: `chain_law`.
-/

set_option autoImplicit false

namespace MessageBus

/-! ## How far a call comes -/

namespace Behavior

/-- The last behavior that the call has come to answered by itself. -/
def Answered (behaviors : List Behavior) (received : Received) (stays : List Stay) : Prop :=
  ∃ (i : Nat) (b : Behavior) (v : Stay) (result : Outcome), behaviors[i]? = some b ∧
    stays[i]? = some v ∧ stays.length = i + 1 ∧
    (b.work v.context received).Course v.before (.answer result)

/-- The call was cut short while the last behavior that it has come to was waiting. -/
def HeldUp (behaviors : List Behavior) (received : Received) (stays : List Stay) : Prop :=
  ∃ (i : Nat) (b : Behavior) (v : Stay), behaviors[i]? = some b ∧ stays[i]? = some v ∧
    stays.length = i + 1 ∧ v.result = none ∧ (b.work v.context received).Reaches v.before none

/-- The call has come to the handler. -/
def Reached (behaviors : List Behavior) (handler : Handler) (received : Received)
    (stays : List Stay) : Prop :=
  ∃ v : Stay, stays[behaviors.length]? = some v ∧ stays.length = behaviors.length + 1 ∧
    (handler v.context received).Reaches v.before v.result ∧ v.after = []

variable {behaviors : List Behavior} {handler : Handler} {received : Received} {stays : List Stay}
  {b : Behavior} {v : Stay}

theorem Answered.cons (h : Answered behaviors received stays) (b : Behavior) (v : Stay) :
    Answered (b :: behaviors) received (v :: stays) := by
  obtain ⟨i, b', v', result, hb, hv, hlength, hcourse⟩ := h
  exact ⟨i + 1, b', v', result, hb, hv, congrArg Nat.succ hlength, hcourse⟩

theorem HeldUp.cons (h : HeldUp behaviors received stays) (b : Behavior) (v : Stay) :
    HeldUp (b :: behaviors) received (v :: stays) := by
  obtain ⟨i, b', v', hb, hv, hlength, hnone, hreaches⟩ := h
  exact ⟨i + 1, b', v', hb, hv, congrArg Nat.succ hlength, hnone, hreaches⟩

theorem Reached.cons (h : Reached behaviors handler received stays) (b : Behavior) (v : Stay) :
    Reached (b :: behaviors) handler received (v :: stays) := by
  obtain ⟨v', hv, hlength, hreaches, hafter⟩ := h
  exact ⟨v', hv, congrArg Nat.succ hlength, hreaches, hafter⟩

/-- A call comes to the handler, or to a behavior that answers by itself, or it is cut short in
front of the handler. -/
theorem Stays.cases (h : Stays handler received behaviors stays) :
    Reached behaviors handler received stays ∨ Answered behaviors received stays ∨
      HeldUp behaviors received stays := by
  induction h with
  | handled h => exact .inl ⟨_, rfl, rfl, h, rfl⟩
  | answered h => exact .inr (.inl ⟨0, _, _, _, rfl, rfl, rfl, h⟩)
  | undecided h => exact .inr (.inr ⟨0, _, _, rfl, rfl, rfl, rfl, h⟩)
  | inside h hinner hcut ih =>
    exact ih.imp (·.cons _ _) (.imp (·.cons _ _) (·.cons _ _))
  | passed h hinner hresult hafter ih =>
    exact ih.imp (·.cons _ _) (.imp (·.cons _ _) (·.cons _ _))

/-- A call has as many stays as the handler makes it only if it has come there. -/
theorem Stays.reached (h : Stays handler received behaviors stays)
    (hlength : stays.length = behaviors.length + 1) :
    Reached behaviors handler received stays := by
  -- a call that ends at a behavior has no stay of the handler
  have hshort {i : Nat} {b : Behavior} (hb : behaviors[i]? = some b)
      (hi : stays.length = i + 1) : False := by
    have hlt : i < behaviors.length := (List.getElem?_eq_some_iff.1 hb).1
    omega
  rcases h.cases with hreached | ⟨i, b, v, result, hb, -, hi, -⟩ | ⟨i, b, v, hb, -, hi, -⟩
  · exact hreached
  · exact (hshort hb hi).elim
  · exact (hshort hb hi).elim

end Behavior

/-! ## How often a handler is called -/

namespace RetryPolicy

variable {τ : Type} {p : RetryPolicy} {Call : τ → List Turn → Option Outcome → Prop}
  {more attempt : Nat} {xs : List τ} {es : List Turn} {r : Option Outcome}

theorem Tries.length_le (h : p.Tries Call more attempt xs es r) : xs.length ≤ more + 1 := by
  induction h with
  | ends | cut | stops | rests => simp
  | again _ _ ih => exact Nat.succ_le_succ ih

theorem Tries.ne_nil (h : p.Tries Call more attempt xs es r) : xs ≠ [] := by
  cases h <;> simp

/-- Where the first attempt was cut short, there is no other one. -/
theorem Tries.eq_singleton {x : τ} (h : p.Tries Call more attempt (x :: xs) es r)
    (hcut : ∀ es result, ¬Call x es (some result)) : xs = [] ∧ r = none := by
  cases h with
  | ends h => exact absurd h (hcut _ _)
  | cut h => exact ⟨rfl, rfl⟩
  | stops h => exact absurd h (hcut _ _)
  | rests h => exact absurd h (hcut _ _)
  | again h => exact absurd h (hcut _ _)

end RetryPolicy

namespace ConsumerSettings

open Behavior

variable {s : ConsumerSettings} {context : TraceContext} {received : Received} {handler : Handler}
  {handlers : List Handler} {passes : List (List Stay)} {es : List Turn} {result : Outcome}

/-- How often the handler is called in some passes. -/
def callsIn (s : ConsumerSettings) (passes : List (List Stay)) : Nat :=
  passes.countP fun stays => stays.length == s.behaviors.length + 1

/-- Why a handler that was started has not been called. -/
inductive Uncalled (s : ConsumerSettings) (received : Received) (passes : List (List Stay))
    (result : Outcome) : Prop where
  /-- A behavior has answered by itself. -/
  | answered {stays : List Stay} (hmem : stays ∈ passes)
      (h : Answered s.behaviors received stays)
  /-- The deadline came while a behavior was waiting, in the first attempt already. -/
  | heldUp {stays : List Stay} {limit : Duration} (hlimit : s.handlerTimeout = some limit)
      (honly : passes = [stays]) (h : HeldUp s.behaviors received stays)
      (hresult : result = .error (.handlerTimeout limit.toMillis))

/-- A pass that was held up has no result. -/
theorem Pass.none_of_heldUp {stays : List Stay} {r : Option Outcome}
    (h : Pass s context received handler stays es r) (hheld : HeldUp s.behaviors received stays) :
    r = none := by
  obtain ⟨i, b, v, -, hv, -, hnone, -⟩ := hheld
  cases hr : r with
  | none => rfl
  | some result =>
    have hsome := h.isSome (by rw [hr]; rfl) v (List.mem_of_getElem? hv)
    rw [hnone] at hsome
    cases hsome

variable {more attempt : Nat} {r : Option Outcome}

/-- Attempts in which the handler is not called. -/
theorem uncalled_of_tries
    (h : s.retry.Tries (Pass s context received handler) more attempt passes es r)
    (hcalls : callsIn s passes = 0) :
    (∃ stays ∈ passes, Answered s.behaviors received stays) ∨
      r = none ∧ ∃ stays, passes = [stays] ∧ HeldUp s.behaviors received stays := by
  cases hp : passes with
  | nil => exact absurd hp h.ne_nil
  | cons stays rest =>
    rw [hp] at h hcalls
    obtain ⟨es', r', hpass⟩ := h.exists_call stays List.mem_cons_self
    have hshort : ¬stays.length = s.behaviors.length + 1 := by
      have hnone := List.countP_eq_zero.1 hcalls stays List.mem_cons_self
      simpa using hnone
    rcases hpass.through.cases with ⟨v, -, hlength, -⟩ | hanswered | hheld
    · exact absurd hlength hshort
    · exact .inl ⟨stays, List.mem_cons_self, hanswered⟩
    · obtain ⟨rfl, hr⟩ := h.eq_singleton fun es result hsome => by
        cases hsome.none_of_heldUp hheld
      exact .inr ⟨hr, stays, rfl, hheld⟩

/-- A handler that is served is called at most as often as it may be tried, and at least once if
nothing keeps the calls from it. -/
theorem Served.calls (h : Served s context received handler passes es result) :
    callsIn s passes ≤ max s.retry.attempts 1 ∧
      (callsIn s passes = 0 → Uncalled s received passes result) := by
  have hmore {es : List Turn} {r : Option Outcome}
      (htries : s.retry.Tries (Pass s context received handler) (s.retry.attempts - 1) 1 passes es
        r) : callsIn s passes ≤ max s.retry.attempts 1 := by
    have hcount : callsIn s passes ≤ passes.length := List.countP_le_length
    have hlength := htries.length_le
    omega
  cases h with
  | unlimited hnone htries =>
    refine ⟨hmore htries, fun hcalls => ?_⟩
    rcases uncalled_of_tries htries hcalls with ⟨stays, hmem, hanswered⟩ | ⟨hr, -⟩
    · exact .answered hmem hanswered
    · cases hr
  | inTime hlimit htries hes =>
    refine ⟨hmore htries, fun hcalls => ?_⟩
    rcases uncalled_of_tries htries hcalls with ⟨stays, hmem, hanswered⟩ | ⟨hr, -⟩
    · exact .answered hmem hanswered
    · cases hr
  | late hlimit htries hes hwait =>
    refine ⟨hmore htries, fun hcalls => ?_⟩
    rcases uncalled_of_tries htries hcalls with ⟨stays, hmem, hanswered⟩ | ⟨-, stays, honly, hheld⟩
    · exact .answered hmem hanswered
    · exact .heldUp hlimit honly hheld rfl

/-! ## Chains -/

/-- What is done with one handler that is started. -/
structure Round where
  turns : List Turn
  /-- The attempts at it. -/
  passes : List (List Stay)
  result : Outcome

/-- What a handler has done in a round. -/
structure Round.Of (s : ConsumerSettings) (context : TraceContext) (received : Received)
    (handler : Handler) (r : Round) : Prop where
  /-- It is a run of this handler with its behaviors, attempts and deadline. -/
  course : (s.runHandler context received handler).Course r.turns r.result
  served : Served s context received handler r.passes r.turns r.result
  /-- In a call as long as that the handler itself does its work. -/
  reached : ∀ stays ∈ r.passes, stays.length = s.behaviors.length + 1 →
    Reached s.behaviors handler received stays
  most : callsIn s r.passes ≤ max s.retry.attempts 1
  least : 1 ≤ callsIn s r.passes ∨ Uncalled s received r.passes r.result

/-- What is logged after a chain. -/
def chainLog (received : Received) : Outcome → List Turn
  | .ok _ => []
  | .error e => [⟨.log (failureLog received e), ()⟩]

/-- Handlers one after the other, up to the first one that fails. -/
structure Chain (s : ConsumerSettings) (context : TraceContext) (received : Received)
    (handlers : List Handler) (rounds : List Round) (es : List Turn) (result : Outcome) :
    Prop where
  /-- The handlers that are started are the first ones. -/
  started : rounds.length ≤ handlers.length
  served : ∀ (i : Nat) (handler : Handler) (r : Round), handlers[i]? = some handler →
    rounds[i]? = some r → r.Of s context received handler
  /-- They do their work one after the other. -/
  order : es = rounds.flatMap Round.turns ++ chainLog received result
  /-- Whoever is followed by another one has succeeded. -/
  before : ∀ (i : Nat) (r : Round), rounds[i]? = some r → i + 1 < rounds.length →
    r.result = .ok ()
  /-- If all of them succeed, all handlers are started, and that is the result. -/
  succeeds : result = .ok () ↔
    rounds.length = handlers.length ∧ ∀ r ∈ rounds, r.result = .ok ()
  /-- If one of them fails, it is the last one, and its error is the result. -/
  fails : ∀ e, result = .error e ↔ ∃ r, rounds.getLast? = some r ∧ r.result = .error e

theorem round_of_course (h : (s.runHandler context received handler).Course es result) :
    ∃ passes, Round.Of s context received handler ⟨es, passes, result⟩ := by
  obtain ⟨passes, hserved⟩ := served_of_course h
  obtain ⟨hmost, hleast⟩ := hserved.calls
  refine ⟨passes, h, hserved, ?_, hmost, ?_⟩
  · intro stays hstays hlength
    have hpass : ∃ es r, Pass s context received handler stays es r := by
      cases hserved with
      | unlimited _ htries => exact htries.exists_call stays hstays
      | inTime _ htries => exact htries.exists_call stays hstays
      | late _ htries => exact htries.exists_call stays hstays
    obtain ⟨_, _, hpass⟩ := hpass
    exact hpass.through.reached hlength
  · rcases Nat.eq_zero_or_pos (callsIn s passes) with hzero | hpos
    · exact .inr (hleast hzero)
    · exact .inl hpos

theorem chain_nil : Chain s context received [] [] [] (.ok ()) where
  started := Nat.le_refl 0
  served _ _ _ h := nomatch h
  order := rfl
  before _ _ h := nomatch h
  succeeds := by simp
  fails := by simp

/-- A handler that succeeds comes in front of the chain of the others. -/
theorem Chain.cons {rounds : List Round} {r : Round}
    (h : Chain s context received handlers rounds es result)
    (hr : r.Of s context received handler) (hok : r.result = .ok ()) :
    Chain s context received (handler :: handlers) (r :: rounds) (r.turns ++ es) result where
  started := Nat.succ_le_succ h.started
  served := by
    rintro (_ | i) handler' r' hhandler hround
    · obtain rfl := Option.some.inj hhandler
      obtain rfl := Option.some.inj hround
      exact hr
    · exact h.served i handler' r' hhandler hround
  order := by rw [h.order, List.flatMap_cons, List.append_assoc]
  before := by
    rintro (_ | i) r' hround hlt
    · obtain rfl := Option.some.inj hround
      exact hok
    · exact h.before i r' hround (Nat.lt_of_succ_lt_succ hlt)
  succeeds := by
    rw [h.succeeds, List.length_cons, List.length_cons, Nat.add_right_cancel_iff,
      List.forall_mem_cons]
    exact and_congr_right fun _ => (and_iff_right hok).symm
  fails e := by
    rw [h.fails]
    cases rounds with
    | nil =>
      constructor
      · rintro ⟨_, hnone, -⟩
        cases hnone
      · rintro ⟨r', hlast, herror⟩
        obtain rfl : r = r' := Option.some.inj hlast
        rw [hok] at herror
        cases herror
    | cons r' rounds => rw [List.getLast?_cons_cons]

/-- A handler that fails ends the chain. -/
theorem chain_of_error {r : Round} {e : BusError} (hr : r.Of s context received handler)
    (hfails : r.result = .error e) (rest : List Handler) :
    Chain s context received (handler :: rest) [r]
      (r.turns ++ [⟨.log (failureLog received e), ()⟩]) (.error e) where
  started := Nat.succ_le_succ (Nat.zero_le _)
  served := by
    rintro (_ | i) handler' r' hhandler hround
    · obtain rfl := Option.some.inj hhandler
      obtain rfl := Option.some.inj hround
      exact hr
    · cases hround
  order := by simp [chainLog]
  before := by
    rintro i r' - hlt
    exact absurd hlt (by simp)
  succeeds := by simp [hfails]
  fails e' := by simp [hfails]

/-- However they are run, handlers make a chain. -/
theorem chain_of_course (h : (s.runHandlers context received handlers).Course es result) :
    ∃ rounds, Chain s context received handlers rounds es result := by
  induction handlers generalizing es with
  | nil =>
    obtain ⟨rfl, rfl⟩ := h
    exact ⟨[], chain_nil⟩
  | cons handler rest ih =>
    rw [runHandlers_cons] at h
    obtain ⟨es₁, outcome, es₂, rfl, hfirst, hrest⟩ := (Task.course_bind _ _ _ _).1 h
    obtain ⟨passes, hround⟩ := round_of_course hfirst
    cases outcome with
    | ok _ =>
      obtain ⟨rounds, hchain⟩ := ih hrest
      exact ⟨_, hchain.cons hround rfl⟩
    | error e =>
      obtain ⟨_, _, rfl, rfl, rfl⟩ := hrest
      exact ⟨_, chain_of_error hround rfl rest⟩

/-! ## The chain of a delivery -/

variable {registry : Registry} {names : TopologyNames} {delivery : Delivery} {message : Message}

theorem isWait_logAll {records : List LogRecord} (h : (logAll records).Course es ()) :
    ∀ e ∈ es, e.query.isWait = false := by
  induction records generalizing es with
  | nil =>
    obtain ⟨rfl, -⟩ := h
    simp
  | cons record records ih =>
    obtain ⟨_, es', rfl, h⟩ := h
    exact List.forall_mem_cons.2 ⟨rfl, ih h⟩

/-- Nothing waits before the handlers are started. -/
theorem course_process_atOnce
    (hread : registry.deserialize delivery.data delivery.kind delivery.contentType = .ok message)
    (h : (s.process registry names handlers delivery).Course es result) :
    ∃ before span es', es = before ++ es' ∧ (∀ e ∈ before, e.query.isWait = false) ∧
      (do
        let handled ← s.runHandlers (some span) (receivedOf delivery message) handlers
        let result ← settle (!s.autoAck) (succeeded handled) (receivedOf delivery message)
        Task.finishSpan span (spanError (!s.autoAck) handled result)
        return result : Task Outcome).Course es' result := by
  obtain ⟨es₁, _, _, rfl, hlog, span, _, rfl, _, es', rfl, hbody⟩ :=
    (Task.course_bind _ _ _ _).1 h
  rw [hread] at hbody
  refine ⟨es₁ ++ [_, _], span, es', (List.append_assoc es₁ [_, _] es').symm, ?_, hbody⟩
  intro e he
  rcases List.mem_append.1 he with he | he
  · exact isWait_logAll hlog e he
  · simp only [List.mem_cons, List.not_mem_nil, or_false] at he
    rcases he with rfl | rfl <;> rfl

/-- What a delivery goes through whose body can be read: the handlers are started at once, their
chain is done, and its result decides about the settlement. -/
structure Handling (s : ConsumerSettings) (handlers : List Handler) (received : Received)
    (span : SpanContext) (handled : Outcome) (rounds : List Round) (es : List Turn)
    (result : Outcome) : Prop where
  parts : ∃ before chain settling after, es = before ++ chain ++ (settling ++ after) ∧
    (∀ e ∈ before, e.query.isWait = false) ∧
    Chain s (some span) received handlers rounds chain handled ∧
    (settle (!s.autoAck) (succeeded handled) received).Course settling result ∧
    after = [⟨.finishSpan span (spanError (!s.autoAck) handled result), ()⟩]

theorem handling_of_process
    (hread : registry.deserialize delivery.data delivery.kind delivery.contentType = .ok message)
    (h : (s.process registry names handlers delivery).Course es result) :
    ∃ span handled rounds,
      Handling s handlers (receivedOf delivery message) span handled rounds es result := by
  obtain ⟨before, span, _, rfl, hbefore, hbody⟩ := course_process_atOnce hread h
  obtain ⟨chain, handled, _, rfl, hchain, hrest⟩ := (Task.course_bind _ _ _ _).1 hbody
  obtain ⟨settling, _, _, rfl, hsettling, _, _, rfl, rfl, rfl⟩ := (Task.course_bind _ _ _ _).1 hrest
  obtain ⟨rounds, hrounds⟩ := chain_of_course hchain
  exact ⟨span, handled, rounds, before, chain, settling, _, (List.append_assoc _ _ _).symm, hbefore,
    hrounds, hsettling, rfl⟩

end ConsumerSettings

/-! ## The law -/

namespace Processor

open ConsumerSettings

/-- What holds of the handlers of a processor, and of every delivery that is handed to it. -/
structure ChainLaw (settings : ConsumerSettings) (registry : Registry) (observers : List String) :
    Prop where
  /-- At any time the handlers are those of the settings, and after them those that were connected,
  in order. -/
  roster : ∀ ms, ((ofSettings settings registry observers).moves ms).handlers =
    settings.handlers ++ connected ms
  /-- A delivery is handled by those that were there when its first handler was about to run, in the
  move in which its work begins, whatever is connected later; that move comes after the one in which
  it got its permit. -/
  begun : ∀ (ms : List Move) (i : Nat) (j : Job),
    ((ofSettings settings registry observers).moves ms).jobs[i]? = some j → j.hasBegun = true →
    ∃ before s later, (ofSettings settings registry observers).Beginning ms before s later i ∧
      Follows (settings.process registry settings.names (settings.handlers ++ connected before)
        j.delivery) j
  /-- They are started as soon as its work begins, with no wait before the first of them, and what
  comes of them decides about the settlement. -/
  handled : ∀ names handlers delivery message es result,
    registry.deserialize delivery.data delivery.kind delivery.contentType = .ok message →
    (settings.process registry names handlers delivery).Course es result →
    ∃ span handled rounds,
      Handling settings handlers (receivedOf delivery message) span handled rounds es result
  /-- However some handlers are run, they make a chain, ... -/
  chain : ∀ context received handlers es result,
    (settings.runHandlers context received handlers).Course es result →
    ∃ rounds, Chain settings context received handlers rounds es result
  /-- ... and in all surroundings it comes to its end. -/
  ends : ∀ (σ : Type) (reply : σ → (q : Query) → q.Answer × σ) (s : σ) context received handlers,
    ∃ rounds, Chain settings context received handlers rounds
      ((settings.runHandlers context received handlers).play reply s).1
      ((settings.runHandlers context received handlers).play reply s).2.1

/-- Every delivery is handled by a chain of the handlers that were there when the first of them was
about to run. -/
theorem chain_law (settings : ConsumerSettings) (registry : Registry) (observers : List String) :
    ChainLaw settings registry observers where
  roster := handlers_moves _
  begun ms i j hj hbegun := by
    obtain ⟨before, s, later, hbeginning, hfollows⟩ := exists_beginning _ rfl ms hj hbegun
    refine ⟨before, s, later, hbeginning, ?_⟩
    have halike := alike_moves (ofSettings settings registry observers) before
    rw [Processor.work, halike.settings, halike.registry, halike.names, handlers_moves] at hfollows
    exact hfollows
  handled _ _ _ _ _ _ hread h := handling_of_process hread h
  chain _ _ _ _ _ h := chain_of_course h
  ends _ reply s _ _ _ := chain_of_course (Task.course_play reply s _)

/-- A behavior that waits for some milliseconds and lets the work inside go on. -/
def waiting (millis : Nat) : Behavior :=
  { name := "A", sleep := some millis : ScriptedBehavior }.behavior

/-- A handler that waits for some milliseconds and succeeds. -/
def slow (millis : Nat) : Handler :=
  { counter := 0, name := "h", script := [{ sleep := some millis }] : ScriptedHandler }.handler

/-- The handler whose call begins in a line of the journal. -/
def called? (e : Entry) : Option String :=
  match e.what with
  | .entered handler _ _ _ => some handler
  | _ => none

/-- A handler that is started need not be called, even though no behavior ever answers by itself:
the deadline strikes while the behavior in front of it is still waiting. A call of the handler would
be in the journal. -/
theorem handler_not_called :
    ∃ (settings : ConsumerSettings) (w : Situation) (received : Received) (s : Scene),
      settings.handlerTimeout = some (.ofMillis 10) ∧
      (∀ b ∈ settings.behaviors, ∀ context received es result,
        ¬(b.work context received).Course es (.answer result)) ∧
      (∀ context s, "h" ∈ ((slow 0 context received).run w s).2.journal.filterMap called?) ∧
      ((settings.runHandlers none received [slow 0]).run w s).1 = .error (.handlerTimeout 10) ∧
      ((settings.runHandlers none received [slow 0]).run w s).2.journal.filterMap called? = [] := by
  refine ⟨{ (default : ConsumerSettings) with
      retry := .once, behaviors := [waiting 20], handlerTimeout := some (.ofMillis 10) },
    ⟨.scripted 1 none none, 0, []⟩, default, {}, rfl, ?_, ?_, ?_, ?_⟩
  · intro b hb context received es result h
    obtain rfl := List.mem_singleton.1 hb
    obtain ⟨_, _, rfl, _, _, rfl, _, _, rfl, -, hanswer⟩ := h
    cases hanswer
  · intro context s
    generalize (default : Received) = received
    obtain ⟨w, hw⟩ : ∃ w : Situation, w = ⟨.scripted 1 none none, 0, []⟩ := ⟨_, rfl⟩
    have hmoments : ∃ (call : Nat) (rest : List Moment), (slow 0 context received).moments w s =
        ⟨s.now, .count 0 received.tag, call⟩ ::
          ⟨s.now, .note received.tag (.entered "h" call none none), ()⟩ :: rest := ⟨_, _, rfl⟩
    obtain ⟨call, rest, hrest⟩ := hmoments
    rw [← hw, Task.journal_run, hrest]
    simp [Moment.entry?, called?]
  · decide +kernel
  · decide +kernel

end Processor

end MessageBus
