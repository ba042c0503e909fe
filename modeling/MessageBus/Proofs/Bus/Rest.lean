import MessageBus.Proofs.Bus.Steps

/-!
# Applications at rest

An application is at rest when nothing goes on by itself any more. The watchers of a consumer are
gone then that were sent away (`AtRest.gone`), so a bus with no other watchers holds on to nothing
(`Bus.holdsNothing_of_gone`); and a link that is alive is held by somebody (`AtRest.holdsLink`).
-/

set_option autoImplicit false

namespace MessageBus

theorem Scene.notBefore_zero (s : Scene) : s.notBefore 0 = s := by simp [Scene.notBefore]

/-! ## Crews -/

namespace Crew

variable {s : Scene} {c : Crew}

theorem fst_takeAll_true (ls : List Label) (s : Scene) (c : Crew) :
    (takeAll ls true s c).1 = true := by
  induction ls generalizing s c with
  | nil => rfl
  | cons l ls ih =>
    rw [takeAll]
    cases c.step s l with
    | none => exact ih s c
    | some r => exact ih r.1 r.2

/-- Where no step was taken none could be. -/
theorem step_eq_none_of_takeAll {ls : List Label} (h : (takeAll ls false s c).1 = false) :
    ∀ l ∈ ls, c.step s l = none := by
  induction ls with
  | nil => exact fun l hl => absurd hl List.not_mem_nil
  | cons l ls ih =>
    rw [takeAll] at h
    cases hstep : c.step s l with
    | none =>
      rw [hstep] at h
      exact List.forall_mem_cons.2 ⟨hstep, ih h⟩
    | some r =>
      obtain ⟨s', c'⟩ := r
      rw [hstep, fst_takeAll_true] at h
      cases h

/-- A crew whose workers never do anything is at rest. -/
theorem atRest_of_workStep? {c : Consumer}
    (h : ∀ time, Bus.workStep? (s.notBefore time) c = none) : c.crew.AtRest s := by
  intro time l hl
  by_contra hstep
  have htaken := fun hnone =>
    hstep (step_eq_none_of_takeAll (s := s.notBefore time) hnone l (mem_labels hl hstep))
  have hnone := h time
  unfold Bus.workStep? at hnone
  split at hnone
  · cases hnone
  · next hmoved =>
    refine htaken (Bool.eq_false_iff.2 fun hmove => hmoved _ _ (Prod.ext hmove rfl))

end Crew

namespace Bus

open Consumer (SentAway Staged)

variable {s : Scene} {b : Bus} {c : Consumer}

/-! ## Consumers -/

theorem of_eachConsumer_eq_none {f : Consumer → Option (Scene × Consumer)}
    (h : b.eachConsumer f = none) (hc : c ∈ b.consumers) : f c = none := by
  obtain ⟨i, hi⟩ := List.getElem?_of_mem hc
  have hnone := List.findSome?_eq_none_iff.1 h i
    (List.mem_range.2 (List.getElem?_eq_some_iff.1 hi).1)
  cases hf : f c with
  | none => rfl
  | some r => simp [hi, hf] at hnone

/-- A request is always answered. -/
theorem replyStep?_ne_none {r : Request} (h : c.request? = some r) : b.replyStep? s c ≠ none := by
  cases hactive : c.active with
  | none => simp [Consumer.request?, hactive] at h
  | some x =>
    obtain ⟨call, phase⟩ := x
    unfold replyStep?
    rw [h]
    simp only [Consumer.request?, hactive] at h
    cases phase with
    | draining | retiring => cases h
    | cancelling | closing | opening =>
      obtain rfl := Option.some.inj h
      simp only [Option.bind_eq_bind, Option.bind_some, answer, Consumer.step, hactive]
      split <;> simp [Consumer.replied]
    | building step =>
      obtain rfl := Option.some.inj h
      simp only [Option.bind_eq_bind, Option.bind_some, answer, Consumer.step, hactive]
      split
      · cases step <;> simp [Consumer.replied, SetupStep.next?]
      · simp [Consumer.replied]

/-- Where no call goes on, and the workers of all subscriptions are gone, there is no call. -/
theorem isQuiet_of_callStep? (hcall : b.callStep? s c = none) (hreply : b.replyStep? s c = none)
    (hdrained : ∀ k, c.crew.isDrained k = true) : c.isQuiet = true := by
  have hrequest : c.request? = none := by
    cases h : c.request? with
    | none => rfl
    | some r => exact absurd hreply (replyStep?_ne_none h)
  unfold callStep? at hcall
  rw [hrequest] at hcall
  simp only [List.findSome?_eq_none_iff, List.forall_mem_cons] at hcall
  obtain ⟨hdrain, hretire, henter, hwatch, -⟩ := hcall
  have hactive : c.active = none := by
    cases h : c.active with
    | none => rfl
    | some x =>
      obtain ⟨call, phase⟩ := x
      cases phase with
      | cancelling | closing | opening | building => simp [Consumer.request?, h] at hrequest
      | draining old connected =>
        simp only [Consumer.step, h, hdrained, if_true] at hdrain
        split at hdrain <;> cases hdrain
      | retiring => simp [Consumer.step, h] at hretire
  have hwaiting : c.waiting = [] := by
    cases h : c.waiting with
    | nil => rfl
    | cons => simp [Consumer.step, hactive, h] at henter
  have hentering : c.entering = [] := by
    cases h : c.entering with
    | nil => rfl
    | cons => simp [Consumer.step, h] at hwatch
  simp [Consumer.isQuiet, hactive, hwaiting, hentering]

/-- Where no watcher reads anything and no call is under way, the watchers are gone that were sent
away. -/
theorem gone_of_hearStep? (hhear : b.hearStep? s c = none) (hquiet : c.isQuiet = true)
    (hstaged : Staged s c) (hsent : SentAway ⟨s, c⟩) : ∀ x ∈ c.watchers, x.phase = .gone := by
  intro x hx
  obtain ⟨i, hi⟩ := List.getElem?_of_mem hx
  cases hphase : x.phase with
  | gone => rfl
  | listening =>
    obtain ⟨s', hgoes⟩ := hsent.goes i x b.connection.isConnected hi hphase
    have hnone := List.findSome?_eq_none_iff.1 hhear i
      (List.mem_range.2 (List.getElem?_eq_some_iff.1 hi).1)
    rw [Consumer.Site.step?_eq_some.1 hgoes] at hnone
    cases hnone
  | rebuilding =>
    -- a watcher rebuilds only while its rebuild is under way
    have hcount := hstaged.rebuilding i
    rw [Consumer.underWay_eq_nil.2 hquiet] at hcount
    simp [Consumer.isRebuilding, hi, hphase] at hcount

/-! ## What a bus holds on to -/

/-- A bus that nobody has in hand, without a loop and without watchers, holds on to nothing. -/
structure HoldsNothing (b : Bus) : Prop where
  alive : b.isAlive = false
  channels : b.channels = []

theorem holdsNothing_of_gone (hhand : b.isInHand = false) (hloop : b.connection.loop = .absent)
    (hgone : ∀ c ∈ b.consumers, ∀ x ∈ c.watchers, x.phase = .gone) : b.HoldsNothing := by
  have hkeeps : ∀ c ∈ b.consumers, b.keeps c = false := by
    intro c hc
    simpa [keeps, hhand] using hgone c hc
  constructor
  · simpa [isAlive, hhand, Connection.isLooping, hloop] using hkeeps
  · simpa [channels, hhand, List.filter_eq_nil_iff] using fun c hc hkept =>
      absurd hkept (by simp [hkeeps c hc])

end Bus

namespace Application

variable {a : Application} {b : Bus}

/-! ## Applications -/

/-- Nothing goes on by itself, now or at any later time. -/
def AtRest (a : Application) : Prop := ∀ time, (a.notBefore time).step? = none

theorem of_eachBus_eq_none {f : Scene → Bus → Option (Scene × Bus)} (h : a.eachBus f = none)
    (hb : b ∈ a.buses) : f a.scene b = none := by
  obtain ⟨i, hi⟩ := List.getElem?_of_mem hb
  have hnone := List.findSome?_eq_none_iff.1 h i
    (List.mem_range.2 (List.getElem?_eq_some_iff.1 hi).1)
  cases hf : f a.scene b with
  | none => rfl
  | some r => simp [hi, hf] at hnone

/-- At rest no bus takes a step. -/
theorem AtRest.bus (h : a.AtRest) (hb : b ∈ a.buses) (time : Nat) :
    b.promptStep? (a.scene.notBefore time) = none ∧
      b.backgroundStep? (a.scene.notBefore time) = none ∧
      b.brokerStep? (a.scene.notBefore time) = none := by
  have hnone := h time
  simp only [step?, Option.or_eq_none_iff] at hnone
  obtain ⟨hprompt, -, hbackground, -, -, hbroker⟩ := hnone
  exact ⟨of_eachBus_eq_none (b := b) hprompt hb, of_eachBus_eq_none (b := b) hbackground hb,
    of_eachBus_eq_none (b := b) hbroker hb⟩

/-- At rest nothing is left of consumers that are sent away, unless a job waits for an answer that
never comes. -/
theorem AtRest.gone (h : a.AtRest) (hb : b ∈ a.buses) (hloop : b.connection.loop = .absent)
    {c : Consumer} (hc : c ∈ b.consumers) (hstaged : Consumer.Staged a.scene c)
    (hsent : Consumer.SentAway ⟨a.scene, c⟩)
    (hstranded : ∀ j ∈ c.crew.processor.jobs, j.isStranded = false) :
    ∀ x ∈ c.watchers, x.phase = .gone := by
  have hcrew : c.crew.AtRest a.scene := Crew.atRest_of_workStep? fun time => by
    have hbackground := (h.bus hb time).2.1
    simp only [Bus.backgroundStep?, Option.or_eq_none_iff] at hbackground
    exact Bus.of_eachConsumer_eq_none hbackground.2.1 hc
  obtain ⟨hprompt, hbackground, hbroker⟩ := h.bus hb 0
  rw [Scene.notBefore_zero] at hprompt hbackground hbroker
  simp only [Bus.promptStep?, Bus.backgroundStep?, Option.or_eq_none_iff] at hprompt hbackground
  rw [Bus.brokerStep?, Bus.redial?_of_absent hloop] at hbroker
  have hquiet : c.isQuiet = true := Bus.isQuiet_of_callStep?
    (Bus.of_eachConsumer_eq_none hprompt.2 hc) (Bus.of_eachConsumer_eq_none hbroker hc)
    (hsent.drained hcrew hstranded)
  exact Bus.gone_of_hearStep? (Bus.of_eachConsumer_eq_none hbackground.2.2.2.1 hc) hquiet hstaged
    hsent

/-- Every link that is alive is held by one of the first buses, or by the application itself. -/
def HeldByFirst (a : Application) (n : Nat) : Prop :=
  ∀ link, a.scene.broker.linkAlive link = true →
    ({ a with buses := a.buses.take n } : Application).holdsLink link = true

/-- Where there is nobody else, no link is alive. -/
theorem HeldByFirst.linkAlive (h : a.HeldByFirst 0) (hchannels : a.channels = [])
    (link : Amqp.LinkId) : a.scene.broker.linkAlive link = false := by
  by_contra halive
  have hheld := h link (by simpa using halive)
  simp [Application.holdsLink, channelsInUse, hchannels] at hheld

/-- At rest a link that is alive is held by somebody. -/
theorem AtRest.holdsLink (h : a.AtRest) {link : Amqp.LinkId}
    (halive : a.scene.broker.linkAlive link = true) : a.holdsLink link = true := by
  have hnone := h 0
  simp only [step?, Option.or_eq_none_iff] at hnone
  obtain ⟨-, -, -, -, hhang, -⟩ := hnone
  have hlt : link < a.scene.broker.links.length := by
    by_contra hge
    simp [Amqp.Broker.linkAlive, List.getElem?_eq_none (Nat.le_of_not_lt hge)] at halive
  by_contra hheld
  unfold hangUpStep? at hhang
  cases hfind : (List.range a.scene.broker.links.length).find? fun link =>
      a.scene.broker.linkAlive link && !a.holdsLink link with
  | none =>
    have hnot := List.find?_eq_none.1 hfind link (List.mem_range.2 hlt)
    simp [halive, hheld] at hnot
  | some link =>
    have hscene : (a.notBefore 0) = a := by
      simp [notBefore, Scene.notBefore_zero]
    rw [hscene, hfind] at hhang
    cases hhang

/-- A bus that holds on to nothing holds no link. -/
theorem AtRest.heldByFirst (h : a.AtRest) {n : Nat} (hn : a.buses.length = n + 1)
    (hb : a.buses[n]? = some b) (hnothing : b.HoldsNothing) : a.HeldByFirst n := by
  intro link halive
  have hheld := h.holdsLink halive
  have hlast : a.buses = a.buses.take n ++ [b] :=
    calc a.buses = a.buses.take (n + 1) := (List.take_of_length_le hn.le).symm
      _ = a.buses.take n ++ [b] := by rw [List.take_add_one, hb]; rfl
  unfold Application.holdsLink channelsInUse at hheld ⊢
  rw [hlast] at hheld
  simpa [hnothing.alive, hnothing.channels] using hheld

end Application

end MessageBus
