import MessageBus.Proofs.Consumer.Dialogue

/-!
# How long calls take

The calls of a consumer that are under way take only so many steps to their end. A call that is made
adds to them, every step of a call takes one away, and nothing else changes them: main statement is
`Stepped.stepsLeft_le`.
-/

set_option autoImplicit false

namespace MessageBus.Consumer

/-- Whether a step is one of a call that is under way. -/
def Label.isTurn : Label → Bool
  | .watch | .enter _ | .reply _ | .drained _ | .retire => true
  | _ => false

/-- How many steps the calls in line take at most: what is left to the one that holds the lock, and
ten for each of the others. -/
def toGo (c : Consumer) : Nat :=
  (match c.active with
    | some (_, phase) => phase.distance
    | none => 0) + 10 * c.waiting.length

/-- How many steps the calls under way take at most: eleven for each start that has not looked for a
watcher, and what those in line take. -/
def stepsLeft (c : Consumer) : Nat := 11 * c.entering.length + c.toGo

variable {s s' : Scene} {c c' : Consumer} {call : Call} {l : Label}

/-! ## Calls in line -/

theorem distance_pos (phase : CallPhase) : 0 < phase.distance := by
  cases phase with
  | building step => have hlt := step.place_lt; simp only [CallPhase.distance]; omega
  | cancelling | draining | closing | opening | retiring => simp [CallPhase.distance]

theorem distance_le (phase : CallPhase) : phase.distance ≤ 9 := by
  cases phase with
  | building step => simp only [CallPhase.distance]; omega
  | cancelling | draining | closing | opening | retiring => simp [CallPhase.distance]

theorem toGo_of_active {phase : CallPhase} (h : c.active = some (call, phase)) :
    c.toGo = phase.distance + 10 * c.waiting.length := by
  rw [toGo, h]

theorem toGo_of_none (h : c.active = none) : c.toGo = 10 * c.waiting.length := by
  rw [toGo, h, Nat.zero_add]

/-- The first call in line takes the lock. -/
theorem toGo_of_taken {waiting : List Call} {phase : CallPhase} (hnone : c.active = none)
    (hwaiting : c.waiting = call :: waiting) (hactive : c'.active = some (call, phase))
    (hwaiting' : c'.waiting = waiting) : c'.toGo + 1 ≤ c.toGo := by
  have hle := distance_le phase
  rw [toGo_of_active hactive, toGo_of_none hnone, hwaiting', hwaiting, List.length_cons]
  omega

/-- The call that holds the lock goes on. -/
theorem toGo_of_nearer {phase phase' : CallPhase} (hactive : c.active = some (call, phase))
    (hlt : phase'.distance < phase.distance) :
    ({ c with active := some (call, phase') } : Consumer).toGo + 1 ≤ c.toGo := by
  rw [toGo_of_active hactive, toGo_of_active rfl]
  show phase'.distance + 10 * c.waiting.length + 1 ≤ _
  omega

/-- The call that holds the lock comes to its end. -/
theorem toGo_of_ended {phase : CallPhase} (hactive : c.active = some (call, phase))
    (hnone : c'.active = none) (hwaiting : c'.waiting = c.waiting) : c'.toGo < c.toGo := by
  have hpos := distance_pos phase
  rw [toGo_of_active hactive, toGo_of_none hnone, hwaiting]
  omega

/-! ## Steps -/

/-- A step makes at most one call. -/
theorem Stepped.calls_le (h : Stepped s c l s' c') : c'.calls ≤ c.calls + 1 := by
  cases h with
  | start | stop | rebuilds => exact Nat.le_refl _
  | _ => exact Nat.le_succ _

/-- What is left becomes less with every step of a call, and more only with another call. -/
theorem Stepped.stepsLeft_le (h : Stepped s c l s' c') :
    c'.stepsLeft + (if l.isTurn then 1 else 0) + 11 * c.calls ≤ c.stepsLeft + 11 * c'.calls := by
  -- where no call is made and no start looks for a watcher, only the line matters
  have hline (hentering : c'.entering = c.entering) (hcalls : c'.calls = c.calls)
      (htoGo : c'.toGo + (if l.isTurn then 1 else 0) ≤ c.toGo) :
      c'.stepsLeft + (if l.isTurn then 1 else 0) + 11 * c.calls ≤ c.stepsLeft + 11 * c'.calls := by
    unfold stepsLeft
    rw [hentering, hcalls]
    omega
  have hjoined {call : Call} (hactive : c'.active = c.active)
      (hwaiting : c'.waiting = c.waiting ++ [call]) : c'.toGo = c.toGo + 10 := by
    unfold toGo
    rw [hactive, hwaiting, List.length_append, List.length_singleton]
    omega
  cases h with
  | start =>
    show 11 * (c.entering ++ [_]).length + c.toGo + 0 + 11 * c.calls ≤ _ + 11 * (c.calls + 1)
    rw [stepsLeft, List.length_append, List.length_singleton]
    omega
  | stop | rebuilds =>
    have htoGo := hjoined rfl rfl
    show 11 * c.entering.length + _ + 0 + 11 * c.calls ≤ _ + 11 * (c.calls + 1)
    rw [stepsLeft, htoGo]
    omega
  | @found _ _ _ entering hentering | @hired _ _ entering hentering =>
    have htoGo := hjoined rfl rfl
    show 11 * entering.length + _ + 1 + 11 * c.calls ≤ _ + 11 * c.calls
    rw [stepsLeft, htoGo, hentering, List.length_cons]
    omega
  | @declined _ waiting _ _ hnone hwaiting =>
    refine hline rfl rfl ?_
    rw [toGo_of_none hnone, toGo_of_none rfl, hwaiting, List.length_cons]
    show 10 * waiting.length + 1 ≤ _
    omega
  | vacant hnone hwaiting | cancels hnone hwaiting | drains hnone hwaiting =>
    exact hline rfl rfl (toGo_of_taken hnone hwaiting rfl rfl)
  | cancelled hactive | closes hactive | opened hactive =>
    refine hline rfl rfl (toGo_of_nearer hactive ?_)
    simp [CallPhase.distance, SetupStep.place]
  | spared hactive | closed hactive | unclosed hactive =>
    refine hline rfl rfl (toGo_of_nearer hactive ?_)
    exact Nat.lt_of_le_of_lt (distance_nextPhase_le _ _) (by simp [CallPhase.distance])
  | @built _ _ next _ _ hactive hnext =>
    refine hline rfl rfl (toGo_of_nearer hactive ?_)
    have hplace := SetupStep.place_next hnext
    have hlt := SetupStep.place_lt next
    simp only [CallPhase.distance]
    omega
  | unopened hactive | unbuilt hactive | installed hactive | retired hactive =>
    exact hline rfl rfl (toGo_of_ended hactive rfl rfl)
  | gone | passes | reconnected | channelClosed | work => exact hline rfl rfl (Nat.le_refl _)

/-- With a step of a call less is left. -/
theorem Stepped.stepsLeft_lt (h : Stepped s c l s' c') (hl : l.isTurn = true) :
    c'.stepsLeft < c.stepsLeft := by
  have hcalls : c'.calls = c.calls := by
    cases h with
    | start | stop | rebuilds => cases hl
    | _ => rfl
  have hle := h.stepsLeft_le
  rw [if_pos hl, hcalls] at hle
  omega

theorem isTurn_of_awaits {phase : CallPhase} (h : phase.awaits l = true) : l.isTurn = true := by
  cases phase <;> cases l <;> first | rfl | cases h

end MessageBus.Consumer
