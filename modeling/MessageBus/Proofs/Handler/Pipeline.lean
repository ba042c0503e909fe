import MessageBus.Consumer.Processing
import MessageBus.Proofs.Handler.Passage
import MessageBus.Proofs.Handler.Program
import MessageBus.Proofs.Retry.Attempts
import MessageBus.Proofs.Task.Deadline

/-!
# Pipelines

Behaviors around a handler are a pipeline. A call of it enters the first behavior, and from each one
the next as long as they let it go on; it leaves them in the reverse order. A pipeline may be cut in
two, and the second part is the handler of the first. Where a run is retried every attempt is a call
of its own of the whole pipeline, also below a deadline. Main statement: `pipeline_law`.
-/

set_option autoImplicit false

namespace MessageBus.Behavior

/-- A call of a pipeline under a context: all that it asks, its result, and its visits. -/
structure Call (behaviors : List Behavior) (handler : Handler) (received : Received)
    (context : TraceContext) (es : List Turn) (result : Outcome) (visits : List Visit) : Prop where
  passage : Passage behaviors handler received visits
  /-- The first behavior is given the context of the call, and its result is that of the call. -/
  outermost : ∃ v, visits[0]? = some v ∧ v.context = context ∧ v.result = result
  /-- What is entered first is left last. -/
  order : es = visits.flatMap Visit.before ++ visits.reverse.flatMap Visit.after

/-- Attempts at a pipeline: each one is a call from the outermost behavior on, under the same
context. -/
def Retried (p : RetryPolicy) (behaviors : List Behavior) (handler : Handler) (received : Received)
    (context : TraceContext) (es : List Turn) (result : Outcome) : Prop :=
  ∃ attempts : List RetryPolicy.Attempt,
    p.Tried (fun _ => compose behaviors handler context received) (p.attempts - 1) 1 attempts es
      result ∧
    ∀ a ∈ attempts, ∃ visits, Call behaviors handler received context a.turns a.result visits

/-- What a consumer does with one handler. -/
inductive Handled (s : ConsumerSettings) (handler : Handler) (received : Received)
    (context : TraceContext) : List Turn → Outcome → Prop where
  | unlimited {es : List Turn} {result : Outcome} (hnone : s.handlerTimeout = none)
      (h : Retried s.retry s.behaviors handler received context es result) :
      Handled s handler received context es result
  | inTime {es es' : List Turn} {result : Outcome} {limit : Duration}
      (hlimit : s.handlerTimeout = some limit)
      (h : Retried s.retry s.behaviors handler received context es' result)
      (hes : List.Forall₂ Turn.Shortened es es') : Handled s handler received context es result
  /-- The attempts are given up at the deadline. -/
  | late {es es' begun rest : List Turn} {result : Outcome} {limit : Duration}
      (hlimit : s.handlerTimeout = some limit)
      (h : Retried s.retry s.behaviors handler received context (begun ++ rest) result)
      (hes : List.Forall₂ Turn.Shortened es begun)
      (hlast : ∀ e ∈ es', e.query.givesUp = true) :
      Handled s handler received context (es ++ es') (.error (.handlerTimeout limit.toMillis))

/-- What holds of some behaviors around a handler. -/
structure PipelineLaw (behaviors : List Behavior) (handler : Handler) : Prop where
  /-- However it is answered, a call goes through the behaviors one by one. -/
  calls : ∀ context received es result,
    (compose behaviors handler context received).Course es result ↔
      ∃ visits, Call behaviors handler received context es result visits
  /-- In all surroundings a call comes to its end. -/
  ends : ∀ (σ : Type) (reply : σ → (q : Query) → q.Answer × σ) (s : σ) context received,
    ∃ visits, Call behaviors handler received context
      ((compose behaviors handler context received).play reply s).1
      ((compose behaviors handler context received).play reply s).2.1 visits
  /-- What is written as a program runs with the behaviors after it as its continuation. -/
  written : ∀ (b : WrittenBehavior) context received,
    compose (b.behavior :: behaviors) handler context received =
      (b.program context received).run fun context => compose behaviors handler context received
  nil : compose [] handler = handler
  append : ∀ more, compose (behaviors ++ more) handler = compose behaviors (compose more handler)
  /-- Every attempt of a run that is retried is a call of its own. -/
  retried : ∀ (p : RetryPolicy) context received es result,
    (p.run fun _ => compose behaviors handler context received).Course es result ↔
      Retried p behaviors handler received context es result
  /-- So it is in a consumer, whatever its behaviors, policy and deadline are. -/
  handled : ∀ (s : ConsumerSettings) context received es result,
    (s.runHandler context received handler).Course es result →
    Handled s handler received context es result

variable {behaviors : List Behavior} {handler : Handler} {received : Received}
  {context : TraceContext} {es : List Turn} {result : Outcome} {p : RetryPolicy}
  {s : ConsumerSettings}

theorem course_iff_call :
    (compose behaviors handler context received).Course es result ↔
      ∃ visits, Call behaviors handler received context es result visits := by
  rw [course_compose]
  constructor
  · rintro ⟨v, inner, hvisited, hcontext, hresult, hes⟩
    refine ⟨v :: inner, hvisited.passage, ⟨v, rfl, hcontext, hresult⟩, ?_⟩
    rw [hes, turns_eq]
  · rintro ⟨visits, hpassage, ⟨v, hv, hcontext, hresult⟩, hes⟩
    cases visits with
    | nil => exact absurd rfl hpassage.nonempty
    | cons v' inner =>
      obtain rfl := Option.some.inj hv
      refine ⟨v', inner, hpassage.visited, hcontext, hresult, ?_⟩
      rw [hes, turns_eq]

theorem course_iff_retried :
    (p.run fun _ => compose behaviors handler context received).Course es result ↔
      Retried p behaviors handler received context es result := by
  rw [RetryPolicy.course_run]
  constructor
  · rintro ⟨attempts, htried⟩
    refine ⟨attempts, htried, fun a ha => ?_⟩
    obtain ⟨i, hi⟩ := List.getElem?_of_mem ha
    exact course_iff_call.1 (htried.course i a hi)
  · rintro ⟨attempts, htried, -⟩
    exact ⟨attempts, htried⟩

theorem handled_of_course (h : (s.runHandler context received handler).Course es result) :
    Handled s handler received context es result := by
  unfold ConsumerSettings.runHandler at h
  cases hlimit : s.handlerTimeout with
  | none =>
    simp only [hlimit] at h
    exact .unlimited hlimit (course_iff_retried.1 h)
  | some limit =>
    simp only [hlimit] at h
    obtain ⟨es₁, r, es₂, rfl, hcut, hrest⟩ := (Task.course_bind _ _ _ _).1 h
    cases Task.course_cutOff hcut with
    | inTime hcourse hes =>
      obtain ⟨rfl, rfl⟩ := hrest
      rw [List.append_nil]
      exact .inTime hlimit (course_iff_retried.1 hcourse) hes
    | late hcourse hes hlast =>
      obtain ⟨rfl, rfl⟩ := hrest
      rw [List.append_nil]
      exact .late hlimit (course_iff_retried.1 hcourse) hes hlast

/-- A call of a pipeline goes through its behaviors one by one, as far as each of them lets it, and
every attempt at one is such a call. -/
theorem pipeline_law (behaviors : List Behavior) (handler : Handler) :
    PipelineLaw behaviors handler where
  calls _ _ _ _ := course_iff_call
  ends _ reply s _ _ := course_iff_call.1 (Task.course_play reply s _)
  written b context received := b.wrap_behavior _ context received
  nil := rfl
  append _ := List.foldr_append
  retried _ _ _ _ _ := course_iff_retried
  handled _ _ _ _ _ h := handled_of_course h

end MessageBus.Behavior
