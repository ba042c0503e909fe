import MessageBus.Proofs.Handler.Spans

/-!
# Contexts in calls

In a call whose behaviors trace or pass on the context they were given, the handler is given the
context of the innermost of the spans around it: see `context_of_stays`. It belongs to the trace of
the span under which the call was made.
-/

set_option autoImplicit false

namespace MessageBus.Behavior

/-- The behavior lets the work inside go on under the context it was given, if at all. -/
def PassesOn (b : Behavior) : Prop :=
  ∀ context received es inside after,
    (b.work context received).Course es (.proceed inside after) → inside = context

/-- The spans that behaviors which trace have begun around a handler, the outermost first. All other
behaviors have passed on the context they were given. -/
inductive SpansAround (received : Received) :
    List Behavior → List Stay → List SpanContext → Prop where
  | handler {v : Stay} : SpansAround received [] [v] []
  | traced {bs : List Behavior} {v : Stay} {stays : List Stay} {c : SpanContext}
      {cs : List SpanContext} (hv : v.before = [⟨.startSpan (handlerSpan v.context received), c⟩])
      (h : SpansAround received bs stays cs) :
      SpansAround received (tracing :: bs) (v :: stays) (c :: cs)
  | passed {b : Behavior} {bs : List Behavior} {v : Stay} {stays : List Stay}
      {cs : List SpanContext} (hb : b.PassesOn) (h : SpansAround received bs stays cs) :
      SpansAround received (b :: bs) (v :: stays) cs

variable {behaviors : List Behavior} {handler : Handler} {received : Received} {v w : Stay}
  {stays : List Stay} {span : SpanContext}

/-- A call that has come further than a behavior is a call of what is inside. -/
theorem Stays.descend {b : Behavior} {inner : Stay}
    (h : Stays handler received (b :: behaviors) (v :: inner :: stays)) :
    Stays handler received behaviors (inner :: stays) ∧
      ∃ after, (b.work v.context received).Course v.before (.proceed inner.context after) := by
  cases h with
  | inside h hinner hcut => exact ⟨hinner, _, h⟩
  | passed h hinner hresult hafter => exact ⟨hinner, _, h⟩

/-- The handler is given the context of the innermost span around it. -/
theorem context_of_stays (h : Stays handler received behaviors (v :: stays))
    (hbehaviors : ∀ b ∈ behaviors, b = tracing ∨ b.PassesOn)
    (hw : (v :: stays)[behaviors.length]? = some w) (hv : v.context = some span)
    (hyields : ∀ s ∈ begun (spanEvents (stayTurns (v :: stays))), s.start.Yields s.context)
    (hvalid : span.Valid) :
    ∃ c cs, SpansAround received behaviors (v :: stays) cs ∧ w.context = some c ∧
      (span :: cs).getLast? = some c ∧ c.Valid ∧ c.trace = span.trace ∧ c.state = span.state := by
  induction behaviors generalizing v stays span with
  | nil =>
    cases h with
    | handled h =>
      obtain rfl := Option.some.inj hw
      exact ⟨span, [], .handler, hv, rfl, hvalid, rfl, rfl⟩
  | cons b behaviors ih =>
    cases stays with
    | nil => cases hw
    | cons inner stays =>
      obtain ⟨hinner, after, hcourse⟩ := h.descend
      obtain ⟨hb, hrest⟩ := List.forall_mem_cons.1 hbehaviors
      rw [stayTurns, spanEvents_append, spanEvents_append, begun_append, begun_append] at hyields
      have hinside : ∀ s ∈ begun (spanEvents (stayTurns (inner :: stays))),
          s.start.Yields s.context := fun s hs =>
        hyields s (List.mem_append_left _ (List.mem_append_right _ hs))
      rcases hb with rfl | hb
      · -- the span begins below the context, and all inside is below it
        obtain ⟨c, hbefore, hcontext, -⟩ := course_tracing hcourse
        have hbegun : Span.begun (handlerSpan v.context received) c ∈
            begun (spanEvents v.before) := by
          rw [hbefore]
          exact List.mem_cons_self
        have hyield := hyields _ (List.mem_append_left _ (List.mem_append_left _ hbegun))
        have hc : c.Valid := hyield.valid fun parent hparent => by
          obtain rfl := Option.some.inj (hv.symm.trans hparent)
          exact hvalid
        obtain ⟨c', cs, haround, hcontext', hlast, hvalid', htrace, hstate⟩ :=
          ih hinner hrest hw hcontext hinside hc
        refine ⟨c', c :: cs, .traced hbefore haround, hcontext', ?_, hvalid',
          htrace.trans (hyield.trace span hv), hstate.trans (hyield.state span hv)⟩
        rw [List.getLast?_cons_cons, hlast]
      · have hcontext : inner.context = some span := (hb _ _ _ _ _ hcourse).trans hv
        obtain ⟨c', cs, haround, hrest'⟩ := ih hinner hrest hw hcontext hinside hvalid
        exact ⟨c', cs, .passed hb haround, hrest'⟩

end MessageBus.Behavior

namespace MessageBus

open Behavior

theorem ScriptedBehavior.passesOn (b : ScriptedBehavior) (hmode : b.mode ≠ .freshContext) :
    b.behavior.PassesOn := by
  intro context received es inside after h
  have hd := eq_decision h
  unfold decision at hd
  cases hb : b.mode <;> rw [hb] at hd hmode <;> cases hd
  all_goals first | rfl | exact absurd rfl hmode

end MessageBus
