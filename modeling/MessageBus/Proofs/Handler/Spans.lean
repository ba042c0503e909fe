import MessageBus.Proofs.Handler.Stay
import MessageBus.Script

/-!
# Spans in calls

A behavior that traces begins one span in each call that enters it, and what has become of the work
inside settles what has become of the span: see `traced_of_stays`. This takes no more than that
nobody in the call ends spans that are not its own. A call that has a result leaves no span open if
nobody in it does (`Stays.openAfter_eq`).
-/

set_option autoImplicit false

namespace MessageBus

/-- The handler ends only spans that it has begun. -/
def Handler.EndsOwn (h : Handler) : Prop :=
  ∀ context received, (h context received).EndsOwn (fun _ _ => True) []

/-- What comes after the work inside ends only spans that are its own. -/
def Decision.EndsOwn (mine : List SpanContext) : Decision → Prop
  | answer _ => True
  | proceed _ after => ∀ result, (after result).EndsOwn (fun _ _ => True) mine

/-- The behavior ends only spans that it has begun. -/
def Behavior.EndsOwn (b : Behavior) : Prop :=
  ∀ context received, (b.work context received).EndsOwn Decision.EndsOwn []

/-- The handler leaves no span open when it has a result. -/
def Handler.LeavesNone (h : Handler) : Prop :=
  ∀ context received es result, (h context received).Course es result →
    openAfter [] (spanEvents es) = []

/-- The behavior leaves no span open when it has an answer. -/
structure Behavior.LeavesNone (b : Behavior) : Prop where
  answered : ∀ context received es result,
    (b.work context received).Course es (.answer result) → openAfter [] (spanEvents es) = []
  passed : ∀ context received es inside after,
    (b.work context received).Course es (.proceed inside after) → ∀ result es' r,
      (after result).Course es' r → openAfter [] (spanEvents (es ++ es')) = []

namespace Behavior

/-- Nobody in a call ends spans that are not its own. -/
structure AllOwn (behaviors : List Behavior) (handler : Handler) : Prop where
  around : ∀ b ∈ behaviors, b.EndsOwn
  inside : handler.EndsOwn

/-- Nobody in a call leaves a span open. -/
structure NoneLeft (behaviors : List Behavior) (handler : Handler) : Prop where
  around : ∀ b ∈ behaviors, b.LeavesNone
  inside : handler.LeavesNone

variable {behaviors : List Behavior} {handler : Handler} {received : Received}
  {context : TraceContext} {es : List Turn} {r : Option Outcome} {v : Stay} {stays : List Stay}

theorem AllOwn.tail {b : Behavior} (h : AllOwn (b :: behaviors) handler) :
    AllOwn behaviors handler :=
  ⟨fun b' hb' => h.around b' (List.mem_cons_of_mem _ hb'), h.inside⟩

theorem NoneLeft.tail {b : Behavior} (h : NoneLeft (b :: behaviors) handler) :
    NoneLeft behaviors handler :=
  ⟨fun b' hb' => h.around b' (List.mem_cons_of_mem _ hb'), h.inside⟩

theorem keepsOwn_of_among {es : List Turn} (h : Task.Among [] es (ended (spanEvents es))) :
    KeepsOwn (spanEvents es) :=
  fun c hc => (h c hc).resolve_left List.not_mem_nil

/-- What a behavior does before the work inside keeps to its own spans, and so does what it does
after, where those from before are its own. -/
theorem EndsOwn.proceeds {b : Behavior} (hb : b.EndsOwn) {inside : TraceContext}
    {after : Outcome → Task Outcome}
    (h : (b.work context received).Course es (.proceed inside after)) :
    KeepsOwn (spanEvents es) ∧ ∀ result es' r, (after result).Reaches es' r →
      Task.Among (contexts (begun (spanEvents es))) es' (ended (spanEvents es')) := by
  obtain ⟨hended, hP⟩ := (hb context received).of_reaches (Task.reaches_some.2 h)
  refine ⟨keepsOwn_of_among hended, fun result es' r hafter => ?_⟩
  obtain ⟨all, hall, hamong⟩ := hP _ rfl
  intro c hc
  rcases ((hall result).of_reaches hafter).1 c hc with hmine | hbegun
  · exact .inl ((hamong c hmine).resolve_left List.not_mem_nil)
  · exact .inr hbegun

/-- A call keeps to its own spans, however far it comes. -/
theorem Stays.keepsOwn (h : Stays handler received behaviors stays)
    (hown : AllOwn behaviors handler) : KeepsOwn (spanEvents (stayTurns stays)) := by
  induction h with
  | @handled context es r h =>
    have hhandler := (hown.inside context received).of_reaches h
    simpa [stayTurns] using keepsOwn_of_among hhandler.1
  | @answered b bs context es result h =>
    have hb := hown.around b List.mem_cons_self context received
    simpa [stayTurns] using keepsOwn_of_among (hb.of_reaches (Task.reaches_some.2 h)).1
  | @undecided b bs context es h =>
    have hb := hown.around b List.mem_cons_self context received
    simpa [stayTurns] using keepsOwn_of_among (hb.of_reaches h).1
  | @inside b bs context es after inner rest h hinner hcut ih =>
    have hbefore := ((hown.around b List.mem_cons_self).proceeds h).1
    rw [stayTurns, List.append_nil, spanEvents_append]
    exact hbefore.append (ih hown.tail)
  | @passed b bs context es es' after inner rest result r h hinner hresult hafter ih =>
    obtain ⟨hbefore, hended⟩ := (hown.around b List.mem_cons_self).proceeds h
    have hfront := hbefore.append (ih hown.tail)
    intro c hc
    rw [stayTurns, spanEvents_append, ended_append, List.mem_append] at hc
    rw [stayTurns, spanEvents_append, begun_append, contexts_append, List.mem_append]
    rw [spanEvents_append] at hc ⊢
    rcases hc with hc | hc
    · exact .inl (hfront c hc)
    · rcases hended result es' r hafter c hc with hmine | hbegun
      · rw [begun_append, contexts_append, List.mem_append]
        exact .inl (.inl hmine)
      · exact .inr hbegun

/-- The contexts of the spans that begin in a call, each of them once. -/
def Distinct (stays : List Stay) : Prop :=
  (contexts (begun (spanEvents (stayTurns stays)))).Nodup

theorem Distinct.front {stays : List Stay} (h : Distinct (v :: stays)) :
    (contexts (begun (spanEvents v.before ++ spanEvents (stayTurns stays)))).Nodup := by
  rw [Distinct, stayTurns, spanEvents_append, begun_append, contexts_append, spanEvents_append] at h
  exact h.of_append_left

theorem Distinct.inside {stays : List Stay} (h : Distinct (v :: stays)) : Distinct stays := by
  have hfront := h.front
  rw [begun_append, contexts_append] at hfront
  exact hfront.of_append_right

/-- A call that has a result leaves no span open, if nobody in it does. -/
theorem Stays.openAfter_eq (h : Stays handler received behaviors (v :: stays))
    (hown : AllOwn behaviors handler) (hnone : NoneLeft behaviors handler)
    (hd : Distinct (v :: stays)) (hv : v.result.isSome = true) :
    openAfter [] (spanEvents (stayTurns (v :: stays))) = [] := by
  generalize hall : v :: stays = all at h hd ⊢
  induction h generalizing v stays with
  | @handled context es r h =>
    obtain ⟨rfl, rfl⟩ := List.cons.inj hall
    obtain ⟨result, rfl⟩ := Option.isSome_iff_exists.1 hv
    have hleft := hnone.inside _ _ _ _ (Task.reaches_some.1 h)
    simpa [stayTurns] using hleft
  | @answered b bs context es result h =>
    have hleft := (hnone.around b List.mem_cons_self).answered _ _ _ _ h
    simpa [stayTurns] using hleft
  | undecided | inside =>
    obtain ⟨rfl, rfl⟩ := List.cons.inj hall
    cases hv
  | @passed b bs context es es' after inner rest result r h hinner hresult hafter ih =>
    obtain ⟨rfl, rfl⟩ := List.cons.inj hall
    obtain ⟨result', rfl⟩ := Option.isSome_iff_exists.1 hv
    have hclosed := ih hown.tail hnone.tail (by rw [hresult]; rfl) rfl hd.inside
    have hfront : openAfter [] (spanEvents es ++ spanEvents (stayTurns (inner :: rest))) =
        openAfter [] (spanEvents es) := by
      rw [(hinner.keepsOwn hown.tail).openAfter_append hd.front, hclosed, List.nil_append]
    have hleft := (hnone.around b List.mem_cons_self).passed _ _ _ _ _ h _ _ _
      (Task.reaches_some.1 hafter)
    rw [stayTurns, spanEvents_append, spanEvents_append, openAfter_append, hfront]
    rwa [spanEvents_append, openAfter_append] at hleft

/-! ## Tracing -/

/-- The span that a behavior that traces begins. -/
def handlerSpan (context : TraceContext) (received : Received) : SpanStart :=
  .handler tracingScope context (received.messageType ++ " handle")

/-- All that it does is to begin the span, ... -/
theorem reaches_tracing {d : Option Decision}
    (h : (tracing.work context received).Reaches es d) :
    ∃ c : SpanContext, es = [⟨.startSpan (handlerSpan context received), c⟩] ∧
      d = some (.proceed (some c) fun result => do
        Task.finishSpan c result.error?
        return result) := by
  rcases h with ⟨hwait, -⟩ | ⟨c, es', rfl, rfl, rfl⟩
  · cases hwait
  · exact ⟨c, rfl, rfl⟩

/-- ... and to end it with the result of the work inside. -/
theorem course_tracing {inside : TraceContext} {after : Outcome → Task Outcome}
    (h : (tracing.work context received).Course es (.proceed inside after)) :
    ∃ c : SpanContext, es = [⟨.startSpan (handlerSpan context received), c⟩] ∧ inside = some c ∧
      ∀ result es' r, (after result).Reaches es' r →
        es' = [⟨.finishSpan c result.error?, ()⟩] ∧ r = some result := by
  obtain ⟨c, rfl, hd⟩ := reaches_tracing (Task.reaches_some.2 h)
  obtain ⟨rfl, rfl⟩ := Decision.proceed.inj (Option.some.inj hd)
  refine ⟨c, rfl, rfl, ?_⟩
  rintro result es' r (⟨hwait, -⟩ | ⟨_, _, rfl, rfl, rfl⟩)
  · cases hwait
  · exact ⟨rfl, rfl⟩

/-- What a behavior that traces has done in a call: it has begun one span below the context it was
given, under which the work inside is done, and has ended it with the result of that, if there is
one; nothing else. `Is` holds of the span and the result. -/
def Traced (received : Received) (Is : Span → Option Outcome → Prop) (stays : List Stay) (i : Nat)
    (v : Stay) : Prop :=
  ∃ c inner, stays[i + 1]? = some inner ∧ inner.context = some c ∧
    v.before = [⟨.startSpan (handlerSpan v.context received), c⟩] ∧
    v.after = (inner.result.map fun result => ⟨.finishSpan c result.error?, ()⟩).toList ∧
    Is (.begun (handlerSpan v.context received) c) inner.result

theorem Traced.mono {Is Is' : Span → Option Outcome → Prop} {i : Nat}
    (h : Traced received Is stays i v)
    (hIs : ∀ s, ∀ inner ∈ stays, Is s inner.result → Is' s inner.result) :
    Traced received Is' stays i v := by
  obtain ⟨c, inner, hinner, hcontext, hbefore, hafter, his⟩ := h
  exact ⟨c, inner, hinner, hcontext, hbefore, hafter, hIs _ inner (List.mem_of_getElem? hinner) his⟩

/-- What has become of the work inside has become of the span. -/
theorem traced_of_stays (h : Stays handler received behaviors stays)
    (hown : AllOwn behaviors handler) (hd : Distinct stays) {i : Nat}
    (hi : behaviors[i]? = some tracing) (hv : stays[i]? = some v) :
    Traced received (Became (spanEvents (stayTurns stays))) stays i v := by
  induction h generalizing i with
  | handled h => simp at hi
  | @answered b bs context es result h =>
    cases i with
    | zero =>
      obtain rfl := Option.some.inj hi
      obtain ⟨c, -, hproceed⟩ := reaches_tracing (Task.reaches_some.2 h)
      cases hproceed
    | succ i => simp at hv
  | @undecided b bs context es h =>
    cases i with
    | zero =>
      obtain rfl := Option.some.inj hi
      obtain ⟨c, -, hproceed⟩ := reaches_tracing h
      cases hproceed
    | succ i => simp at hv
  | @inside b bs context es after inner rest h hinner hcut ih =>
    have hinside := hinner.keepsOwn hown.tail
    rw [stayTurns, List.append_nil, spanEvents_append]
    cases i with
    | zero =>
      obtain rfl := Option.some.inj hi
      obtain rfl := Option.some.inj hv
      obtain ⟨c, rfl, hcontext, -⟩ := course_tracing h
      refine ⟨c, inner, rfl, hcontext, rfl, by rw [hcut]; rfl, ?_⟩
      have hopen : openAfter [] (.begins (handlerSpan context received) c ::
          spanEvents (stayTurns (inner :: rest))) = _ := openAfter_around hinside hd.front
      have hmem : Span.begun (handlerSpan context received) c ∈
          openAfter [] (.begins (handlerSpan context received) c ::
            spanEvents (stayTurns (inner :: rest))) := by
        rw [hopen]
        exact List.mem_append_right _ List.mem_cons_self
      rw [hcut]
      exact hmem
    | succ i =>
      exact (ih hown.tail hd.inside hi hv).mono fun _ _ _ hbecame =>
        hbecame.after hinside hd.front
  | @passed b bs context es es' after inner rest result r h hinner hresult hafter ih =>
    have hinside := hinner.keepsOwn hown.tail
    rw [stayTurns, spanEvents_append, spanEvents_append]
    cases i with
    | zero =>
      obtain rfl := Option.some.inj hi
      obtain rfl := Option.some.inj hv
      obtain ⟨c, rfl, hcontext, hfinish⟩ := course_tracing h
      obtain ⟨rfl, rfl⟩ := hfinish result es' r hafter
      refine ⟨c, inner, rfl, hcontext, rfl, by rw [hresult]; rfl, ?_⟩
      obtain ⟨hreports, -⟩ := reports_around hinside hd.front (.finished result.error?)
      have hmem : (Span.begun (handlerSpan context received) c).finished result.error? ∈
          reports [] (.begins (handlerSpan context received) c ::
            spanEvents (stayTurns (inner :: rest)) ++ [.ends c (.finished result.error?)]) := by
        rw [hreports]
        exact List.mem_append_right _ List.mem_cons_self
      rw [hresult]
      exact hmem
    | succ i =>
      refine (ih hown.tail hd.inside hi hv).mono fun _ inner' hmem hbecame => ?_
      -- the call inside has a result, so each of its stays has
      have hsome := hinner.isSome (by rw [hresult]; rfl) inner' hmem
      exact (hbecame.after hinside hd.front).before hsome _

/-! ## Who keeps to spans of their own -/

theorem endsOwn_tracing : tracing.EndsOwn :=
  fun _ _ _ _ => ⟨List.mem_cons_self, fun _ => trivial⟩

theorem leavesNone_tracing : tracing.LeavesNone where
  answered _ _ _ _ h := by
    obtain ⟨c, -, hproceed⟩ := reaches_tracing (Task.reaches_some.2 h)
    cases hproceed
  passed _ _ _ _ _ h result es' r hafter := by
    obtain ⟨c, rfl, -, hfinish⟩ := course_tracing h
    obtain ⟨rfl, -⟩ := hfinish result es' (some r) (Task.reaches_some.2 hafter)
    simp [spanEvents_cons, Turn.spanEvent?, openAfter, Span.begun]

/-- A behavior that asks nothing about spans. -/
structure Spanless (b : Behavior) : Prop where
  work : ∀ context received, (b.work context received).Spanless
  after : ∀ context received es inside after,
    (b.work context received).Course es (.proceed inside after) → ∀ result, (after result).Spanless

theorem Spanless.endsOwn {b : Behavior} (h : b.Spanless) : b.EndsOwn := by
  intro context received
  refine (h.work context received).endsOwn fun es d hd => ?_
  cases d with
  | answer result => trivial
  | proceed inside after =>
    exact fun result => (h.after _ _ _ _ _ hd result).endsOwn fun _ _ _ => trivial

theorem Spanless.leavesNone {b : Behavior} (h : b.Spanless) : b.LeavesNone where
  answered context received es result hc := by
    rw [(h.work context received).spanEvents_eq hc]
    rfl
  passed context received es inside after hc result es' r hafter := by
    rw [spanEvents_append, (h.work context received).spanEvents_eq hc,
      (h.after _ _ _ _ _ hc result).spanEvents_eq hafter]
    rfl

theorem spanless_logging : logging.Spanless where
  work _ _ := ⟨rfl, fun _ => ⟨rfl, fun _ => trivial⟩⟩
  after _ _ _ _ _ h result := by
    obtain ⟨_, _, -, _, _, -, -, hd⟩ := h
    obtain ⟨-, rfl⟩ := Decision.proceed.inj hd
    refine ⟨rfl, fun _ => ?_⟩
    cases result with
    | ok _ | error _ => exact ⟨rfl, fun _ => trivial⟩

end Behavior

/-- A scripted behavior always comes to its decision. -/
theorem ScriptedBehavior.eq_decision {b : ScriptedBehavior} {context : TraceContext}
    {received : Received} {es : List Turn} {d : Decision}
    (h : (b.behavior.work context received).Course es d) : d = b.decision context received := by
  obtain ⟨_, es', -, h⟩ := h
  cases hsleep : b.sleep with
  | none =>
    rw [hsleep] at h
    exact h.2.symm
  | some _ =>
    rw [hsleep] at h
    obtain ⟨_, _, -, _, _, -, h⟩ := h
    exact h.2.symm

theorem ScriptedBehavior.spanless (b : ScriptedBehavior) : b.behavior.Spanless where
  work context received := by
    refine ⟨rfl, fun _ => ?_⟩
    cases b.sleep with
    | none => trivial
    | some _ => exact ⟨rfl, fun _ => ⟨rfl, fun _ => trivial⟩⟩
  after context received es inside after h result := by
    have hd := eq_decision h
    unfold decision at hd
    cases hmode : b.mode <;> rw [hmode] at hd <;> cases hd
    all_goals exact ⟨rfl, fun _ => trivial⟩

/-- A handler that asks nothing about spans. -/
def Handler.Spanless (h : Handler) : Prop := ∀ context received, (h context received).Spanless

theorem Handler.Spanless.endsOwn {h : Handler} (hs : h.Spanless) : h.EndsOwn :=
  fun context received => (hs context received).endsOwn fun _ _ _ => trivial

theorem Handler.Spanless.leavesNone {h : Handler} (hs : h.Spanless) : h.LeavesNone := by
  intro context received es result hc
  rw [(hs context received).spanEvents_eq hc]
  rfl

theorem ScriptStep.spanless_run (s : ScriptStep) : s.run.Spanless := by
  unfold run
  cases s.sleep <;> cases s.cancels
  · trivial
  · exact ⟨rfl, fun _ => trivial⟩
  · exact ⟨rfl, fun _ => ⟨rfl, fun _ => trivial⟩⟩
  · exact ⟨rfl, fun _ => ⟨rfl, fun _ => ⟨rfl, fun _ => trivial⟩⟩⟩

theorem ScriptedHandler.spanless (h : ScriptedHandler) : h.handler.Spanless := by
  intro context received
  refine ⟨rfl, fun call => ⟨rfl, fun _ => ?_⟩⟩
  exact (ScriptStep.spanless_run _).bind fun _ => ⟨rfl, fun _ => trivial⟩

end MessageBus
