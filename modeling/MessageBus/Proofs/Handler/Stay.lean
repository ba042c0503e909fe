import MessageBus.Handler
import MessageBus.Proofs.Task.Reach

/-!
# Calls that may be cut short

A call of a handler with behaviors around it may be cut short at any wait of theirs. `Stays` says
how far it has come: which behaviors it has entered, under which contexts, and which of them have
answered; nothing else can happen (`reaches_compose`).
-/

set_option autoImplicit false

namespace MessageBus.Behavior

/-- What a behavior has done in a call so far, or the handler. -/
structure Stay where
  /-- The context it was given. -/
  context : TraceContext
  /-- What it asked before it let the work inside go on. -/
  before : List Turn
  /-- What it asked when it had the result of that. -/
  after : List Turn := []
  /-- What it answered, unless it was cut short. -/
  result : Option Outcome

/-- All that was asked in nested stays, the first one outermost. -/
def stayTurns : List Stay → List Turn
  | [] => []
  | v :: inner => v.before ++ stayTurns inner ++ v.after

/-- The stays of a call, from the outermost behavior inwards. -/
inductive Stays (handler : Handler) (received : Received) :
    List Behavior → List Stay → Prop where
  | handled {context : TraceContext} {es : List Turn} {r : Option Outcome}
      (h : (handler context received).Reaches es r) :
      Stays handler received [] [⟨context, es, [], r⟩]
  | answered {b : Behavior} {bs : List Behavior} {context : TraceContext} {es : List Turn}
      {result : Outcome} (h : (b.work context received).Course es (.answer result)) :
      Stays handler received (b :: bs) [⟨context, es, [], some result⟩]
  /-- It is cut short before it has decided. -/
  | undecided {b : Behavior} {bs : List Behavior} {context : TraceContext} {es : List Turn}
      (h : (b.work context received).Reaches es none) :
      Stays handler received (b :: bs) [⟨context, es, [], none⟩]
  /-- The work inside is cut short. -/
  | inside {b : Behavior} {bs : List Behavior} {context : TraceContext} {es : List Turn}
      {after : Outcome → Task Outcome} {inner : Stay} {rest : List Stay}
      (h : (b.work context received).Course es (.proceed inner.context after))
      (hinner : Stays handler received bs (inner :: rest)) (hcut : inner.result = none) :
      Stays handler received (b :: bs) (⟨context, es, [], none⟩ :: inner :: rest)
  /-- The work inside is done, and has a result. -/
  | passed {b : Behavior} {bs : List Behavior} {context : TraceContext} {es es' : List Turn}
      {after : Outcome → Task Outcome} {inner : Stay} {rest : List Stay} {result : Outcome}
      {r : Option Outcome} (h : (b.work context received).Course es (.proceed inner.context after))
      (hinner : Stays handler received bs (inner :: rest)) (hresult : inner.result = some result)
      (hafter : (after result).Reaches es' r) :
      Stays handler received (b :: bs) (⟨context, es, es', r⟩ :: inner :: rest)

variable {behaviors : List Behavior} {handler : Handler} {received : Received}
  {context : TraceContext} {es : List Turn} {r : Option Outcome} {v : Stay} {stays : List Stay}

/-- However far a call comes, it has got there by its stays. -/
theorem reaches_compose (behaviors : List Behavior) (handler : Handler) (received : Received)
    (context : TraceContext) (es : List Turn) (r : Option Outcome) :
    (compose behaviors handler context received).Reaches es r ↔
      ∃ v inner, Stays handler received behaviors (v :: inner) ∧ v.context = context ∧
        v.result = r ∧ es = stayTurns (v :: inner) := by
  -- by induction on the behaviors: a call of the first one has a call of the others inside
  induction behaviors generalizing context es r with
  | nil =>
    constructor
    · intro h
      exact ⟨⟨context, es, [], r⟩, [], .handled h, rfl, rfl, by simp [stayTurns]⟩
    · rintro ⟨v, inner, hstays, rfl, rfl, rfl⟩
      cases hstays with
      | handled h => simpa [stayTurns] using h
  | cons b bs ih =>
    have hwrap : (compose (b :: bs) handler context received).Reaches es r ↔ _ :=
      Task.reaches_bind (b.work context received) _ es r
    rw [hwrap]
    constructor
    · rintro (⟨rfl, h⟩ | ⟨es₁, d, es₂, rfl, hbefore, hrest⟩)
      · exact ⟨⟨context, es, [], none⟩, [], .undecided h, rfl, rfl, by simp [stayTurns]⟩
      · cases d with
        | answer result =>
          obtain ⟨rfl, rfl⟩ := hrest
          exact ⟨⟨context, es₁, [], some result⟩, [], .answered hbefore, rfl, rfl,
            by simp [stayTurns]⟩
        | proceed context' after =>
          rcases (Task.reaches_bind _ _ _ _).1 hrest with
            ⟨rfl, hcut⟩ | ⟨es₃, result, es₄, rfl, hinner, hafter⟩
          · obtain ⟨v, inner, hstays, rfl, hnone, rfl⟩ := (ih context' es₂ none).1 hcut
            exact ⟨⟨context, es₁, [], none⟩, v :: inner, .inside hbefore hstays hnone, rfl, rfl,
              (List.append_nil _).symm⟩
          · obtain ⟨v, inner, hstays, rfl, hresult, rfl⟩ :=
              (ih context' es₃ (some result)).1 (Task.reaches_some.2 hinner)
            exact ⟨⟨context, es₁, es₄, r⟩, v :: inner, .passed hbefore hstays hresult hafter, rfl,
              rfl, (List.append_assoc _ _ _).symm⟩
    · rintro ⟨v, inner, hstays, rfl, rfl, rfl⟩
      cases hstays with
      | @answered _ _ _ es' _ h =>
        exact .inr ⟨es', _, [], by simp [stayTurns], h, rfl, rfl⟩
      | @undecided _ _ _ es' h => exact .inl ⟨rfl, by simpa [stayTurns] using h⟩
      | @inside _ _ _ es₁ after v' rest h hinner hcut =>
        refine .inr ⟨es₁, _, stayTurns (v' :: rest), by simp [stayTurns], h, ?_⟩
        refine (Task.reaches_bind _ _ _ _).2 (.inl ⟨rfl, ?_⟩)
        exact (ih _ _ _).2 ⟨v', rest, hinner, rfl, hcut, rfl⟩
      | @passed _ _ _ es₁ es₄ after v' rest result _ h hinner hresult hafter =>
        refine .inr ⟨es₁, _, stayTurns (v' :: rest) ++ es₄, ?_, h, ?_⟩
        · rw [stayTurns, List.append_assoc]
        · refine (Task.reaches_bind _ _ _ _).2 (.inr ⟨_, result, es₄, rfl, ?_, hafter⟩)
          exact Task.reaches_some.1 ((ih _ _ _).2 ⟨v', rest, hinner, rfl, hresult, rfl⟩)

/-- Where the outermost stay has an answer, all of them have. -/
theorem Stays.isSome (h : Stays handler received behaviors (v :: stays))
    (hv : v.result.isSome = true) : ∀ w ∈ v :: stays, w.result.isSome = true := by
  generalize hall : v :: stays = all at h
  induction h generalizing v stays with
  | handled | answered | undecided =>
    obtain ⟨rfl, rfl⟩ := List.cons.inj hall
    exact List.forall_mem_singleton.2 hv
  | inside =>
    obtain ⟨rfl, rfl⟩ := List.cons.inj hall
    cases hv
  | passed h hinner hresult hafter ih =>
    obtain ⟨rfl, rfl⟩ := List.cons.inj hall
    exact List.forall_mem_cons.2 ⟨hv, ih (by rw [hresult]; rfl) rfl⟩

end MessageBus.Behavior
