import MessageBus.Handler
import MessageBus.Proofs.Task.Course

/-!
# Calls of handlers with behaviors around them

A call goes inwards from behavior to behavior, as long as each lets the work inside go on, and out
again the same way. `Visited` says which behaviors a call has visited, under which contexts, and
what each of them did before and after the work inside; a course of a call is nothing else
(`course_compose`). What that means for each single behavior and for the handler is `Passage`.
-/

set_option autoImplicit false

namespace MessageBus

namespace Task

variable {α : Type}

/-- What a task ends with is settled by the answers it gets. -/
theorem Course.unique {t : Task α} {es : List Turn} {a b : α} (ha : t.Course es a)
    (hb : t.Course es b) : a = b := by
  induction t generalizing es with
  | done x => exact ha.2.symm.trans hb.2
  | ask q rest ih =>
    obtain ⟨x, es₁, heq₁, h₁⟩ := ha
    obtain ⟨y, es₂, heq₂, h₂⟩ := hb
    obtain ⟨hxy, rfl⟩ := List.cons.inj (heq₁.symm.trans heq₂)
    obtain rfl : x = y := by injection hxy
    exact ih x h₁ h₂

end Task

namespace Behavior

/-- What a behavior has done in a call, or the handler. -/
structure Visit where
  /-- The context it was given. -/
  context : TraceContext
  /-- What it asked before it let the work inside go on. -/
  before : List Turn
  /-- What it asked when it had the result of that. -/
  after : List Turn := []
  /-- What it answered. -/
  result : Outcome

/-- All that is asked in nested visits, the first one outermost. -/
def turns : List Visit → List Turn
  | [] => []
  | v :: inner => v.before ++ turns inner ++ v.after

/-- The visits of a call, from the outermost behavior inwards. -/
inductive Visited (handler : Handler) (received : Received) :
    List Behavior → List Visit → Prop where
  | handled {context : TraceContext} {es : List Turn} {result : Outcome}
      (h : (handler context received).Course es result) :
      Visited handler received [] [⟨context, es, [], result⟩]
  | answered {b : Behavior} {bs : List Behavior} {context : TraceContext} {es : List Turn}
      {result : Outcome} (h : (b.work context received).Course es (.answer result)) :
      Visited handler received (b :: bs) [⟨context, es, [], result⟩]
  /-- The work inside is done, and has a result. -/
  | passed {b : Behavior} {bs : List Behavior} {context : TraceContext} {es es' : List Turn}
      {after : Outcome → Task Outcome} {inner : Visit} {rest : List Visit} {result : Outcome}
      (h : (b.work context received).Course es (.proceed inner.context after))
      (hinner : Visited handler received bs (inner :: rest))
      (hafter : (after inner.result).Course es' result) :
      Visited handler received (b :: bs) (⟨context, es, es', result⟩ :: inner :: rest)

/-- The behavior has let the work inside go on. -/
def Passes (b : Behavior) (received : Received) (v : Visit) : Prop :=
  ∃ context after, (b.work v.context received).Course v.before (.proceed context after)

/-- What the visits of a call are. Visit number `i` is that of behavior number `i`, and the one
after those of all behaviors is that of the handler; so each is visited once at most. -/
structure Passage (behaviors : List Behavior) (handler : Handler) (received : Received)
    (visits : List Visit) : Prop where
  nonempty : visits ≠ []
  once : visits.length ≤ behaviors.length + 1
  /-- What is inside of a behavior is visited if and only if the behavior lets it go on. -/
  entered : ∀ (i : Nat) (b : Behavior) (v : Visit), behaviors[i]? = some b → visits[i]? = some v →
    (visits[i + 1]?.isSome = true ↔ b.Passes received v)
  /-- It is given the context that the behavior passed on, and the behavior goes on with its
  result. -/
  passed : ∀ (i : Nat) (b : Behavior) (v inner : Visit), behaviors[i]? = some b →
    visits[i]? = some v → visits[i + 1]? = some inner → ∃ after,
      (b.work v.context received).Course v.before (.proceed inner.context after) ∧
        (after inner.result).Course v.after v.result
  /-- A behavior that does not let it go on answers by itself. -/
  answered : ∀ (i : Nat) (b : Behavior) (v : Visit), behaviors[i]? = some b →
    visits[i]? = some v → visits[i + 1]? = none →
    (b.work v.context received).Course v.before (.answer v.result) ∧ v.after = []
  /-- The handler is visited if and only if all behaviors let the work inside go on. -/
  reached : visits[behaviors.length]?.isSome = true ↔
    ∀ (i : Nat) (b : Behavior), behaviors[i]? = some b →
      ∃ v, visits[i]? = some v ∧ b.Passes received v
  handled : ∀ v : Visit, visits[behaviors.length]? = some v →
    (handler v.context received).Course v.before v.result ∧ v.after = []

variable {behaviors : List Behavior} {handler : Handler} {received : Received}
  {context : TraceContext} {es : List Turn} {result : Outcome} {visits : List Visit}

/-- The courses of a call are its visits. -/
theorem course_compose (behaviors : List Behavior) (handler : Handler) (received : Received)
    (context : TraceContext) (es : List Turn) (result : Outcome) :
    (compose behaviors handler context received).Course es result ↔
      ∃ v inner, Visited handler received behaviors (v :: inner) ∧ v.context = context ∧
        v.result = result ∧ es = turns (v :: inner) := by
  -- by induction on the behaviors: a call of the first one has a call of the others inside
  induction behaviors generalizing context es result with
  | nil =>
    constructor
    · intro h
      exact ⟨⟨context, es, [], result⟩, [], .handled h, rfl, rfl, by simp [turns]⟩
    · rintro ⟨v, inner, hvisited, rfl, rfl, rfl⟩
      cases hvisited with
      | handled h => simpa [turns] using h
  | cons b bs ih =>
    have hwrap : (compose (b :: bs) handler context received).Course es result ↔ _ :=
      Task.course_bind (b.work context received) _ es result
    rw [hwrap]
    constructor
    · rintro ⟨es₁, d, es₂, rfl, hbefore, hrest⟩
      cases d with
      | answer result' =>
        obtain ⟨rfl, rfl⟩ := hrest
        exact ⟨⟨context, es₁, [], result'⟩, [], .answered hbefore, rfl, rfl, by simp [turns]⟩
      | proceed context' after =>
        obtain ⟨es₃, result', es₄, rfl, hinner, hafter⟩ := (Task.course_bind _ _ _ _).1 hrest
        obtain ⟨v, inner, hvisited, rfl, rfl, rfl⟩ := (ih context' es₃ result').1 hinner
        exact ⟨⟨context, es₁, es₄, result⟩, v :: inner, .passed hbefore hvisited hafter, rfl, rfl,
          (List.append_assoc _ _ _).symm⟩
    · rintro ⟨v, inner, hvisited, rfl, rfl, rfl⟩
      cases hvisited with
      | @answered _ _ _ es' _ h => exact ⟨es', _, [], by simp [turns], h, rfl, rfl⟩
      | @passed _ _ _ es₁ es₄ after v' rest _ h hinner hafter =>
        refine ⟨es₁, _, turns (v' :: rest) ++ es₄, ?_, h, ?_⟩
        · rw [turns, List.append_assoc]
        · refine (Task.course_bind _ _ _ _).2 ⟨_, v'.result, es₄, rfl, ?_, hafter⟩
          exact (ih _ _ _).2 ⟨v', rest, hinner, rfl, rfl, rfl⟩

/-- What is entered first is left last. -/
theorem turns_eq (visits : List Visit) :
    turns visits = visits.flatMap Visit.before ++ visits.reverse.flatMap Visit.after := by
  induction visits with
  | nil => rfl
  | cons v inner ih =>
    rw [turns, ih]
    simp [List.append_assoc]

theorem not_passes_of_answer {b : Behavior} {v : Visit}
    (h : (b.work v.context received).Course v.before (.answer v.result)) :
    ¬b.Passes received v := by
  rintro ⟨context, after, hproceed⟩
  cases h.unique hproceed

theorem Visited.passage (h : Visited handler received behaviors visits) :
    Passage behaviors handler received visits := by
  -- the first visit is looked at here; the others are those of the call inside, one place further
  induction h with
  | handled h =>
    refine ⟨by simp, by simp, ?_, ?_, ?_, ?_, ?_⟩
    · intro i b v hb
      simp at hb
    · intro i b v inner hb
      simp at hb
    · intro i b v hb
      simp at hb
    · simp
    · rintro v ⟨⟩
      exact ⟨h, rfl⟩
  | @answered b bs context es result h =>
    have hno : ¬b.Passes received ⟨context, es, [], result⟩ := not_passes_of_answer h
    refine ⟨by simp, by simp, ?_, ?_, ?_, ?_, ?_⟩
    · rintro (_ | i) b' v hb hv
      · obtain rfl := Option.some.inj hb
        obtain rfl := Option.some.inj hv
        simpa using hno
      · simp at hv
    · rintro (_ | i) b' v inner hb hv hinner <;> simp at hinner
    · rintro (_ | i) b' v hb hv -
      · obtain rfl := Option.some.inj hb
        obtain rfl := Option.some.inj hv
        exact ⟨h, rfl⟩
      · simp at hv
    · constructor
      · intro hreached
        simp at hreached
      · intro hall
        obtain ⟨v, hv, hpasses⟩ := hall 0 b rfl
        obtain rfl := Option.some.inj hv
        exact absurd hpasses hno
    · intro v hv
      simp at hv
  | @passed b bs context es es' after inner rest result h hinner hafter ih =>
    have hyes : b.Passes received ⟨context, es, es', result⟩ := ⟨_, _, h⟩
    refine ⟨by simp, ?_, ?_, ?_, ?_, ?_, ?_⟩
    · have honce := ih.once
      simpa using honce
    · rintro (_ | i) b' v hb hv
      · obtain rfl := Option.some.inj hb
        obtain rfl := Option.some.inj hv
        simpa using hyes
      · exact ih.entered i b' v hb hv
    · rintro (_ | i) b' v inner' hb hv hinner'
      · obtain rfl := Option.some.inj hb
        obtain rfl := Option.some.inj hv
        obtain rfl := Option.some.inj hinner'
        exact ⟨after, h, hafter⟩
      · exact ih.passed i b' v inner' hb hv hinner'
    · rintro (_ | i) b' v hb hv hnone
      · simp at hnone
      · exact ih.answered i b' v hb hv hnone
    · refine ih.reached.trans ⟨?_, ?_⟩
      · rintro hall (_ | i) b' hb
        · obtain rfl := Option.some.inj hb
          exact ⟨_, rfl, hyes⟩
        · exact hall i b' hb
      · intro hall i b' hb
        exact hall (i + 1) b' hb
    · exact fun v hv => ih.handled v hv

/-- What a call visits inside of its first behavior is a passage of its own. -/
theorem Passage.inside {b : Behavior} {bs : List Behavior} {v inner : Visit} {rest : List Visit}
    (h : Passage (b :: bs) handler received (v :: inner :: rest)) :
    Passage bs handler received (inner :: rest) := by
  have honce := h.once
  have hpasses : b.Passes received v := (h.entered 0 b v rfl rfl).1 rfl
  refine ⟨by simp, by simpa using honce, fun i => h.entered (i + 1), fun i => h.passed (i + 1),
    fun i => h.answered (i + 1), h.reached.trans ⟨?_, ?_⟩, fun v' hv' => h.handled v' hv'⟩
  · intro hall i b' hb
    exact hall (i + 1) b' hb
  · rintro hall (_ | i) b' hb
    · obtain rfl := Option.some.inj hb
      exact ⟨v, rfl, hpasses⟩
    · exact hall i b' hb

theorem Passage.visited (h : Passage behaviors handler received visits) :
    Visited handler received behaviors visits := by
  induction behaviors generalizing visits with
  | nil =>
    match visits, h with
    | [], h => exact absurd rfl h.nonempty
    | [⟨context, es, after, result⟩], h =>
      obtain ⟨hcourse, hafter⟩ := h.handled _ rfl
      obtain rfl : after = [] := hafter
      exact .handled hcourse
    | _ :: _ :: _, h =>
      have honce := h.once
      simp at honce
  | cons b bs ih =>
    match visits, h with
    | [], h => exact absurd rfl h.nonempty
    | [⟨context, es, after, result⟩], h =>
      obtain ⟨hcourse, hafter⟩ := h.answered 0 b _ rfl rfl rfl
      obtain rfl : after = [] := hafter
      exact .answered hcourse
    | v :: inner :: rest, h =>
      obtain ⟨after, hbefore, hafter⟩ := h.passed 0 b v inner rfl rfl rfl
      exact .passed hbefore (ih h.inside) hafter

end Behavior

end MessageBus
