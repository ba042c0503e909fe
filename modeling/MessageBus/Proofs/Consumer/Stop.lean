import MessageBus.Consumer
import MessageBus.Proofs.Consumer.Drain

/-!
# Stops are final

A call that holds the lock has emptied the slot, and the workers of every subscription that is
neither in the slot nor still to be drained are gone (`Sound`). So when a stop is over no workers
are left, and no job is under way. From then on the consumer is stopped (`Stopped`): the calls that
still wait for the lock find that a stop has begun and do nothing, watchers begin no rebuild, and
all this stays so until somebody starts the consumer again (`stop_law`).
-/

set_option autoImplicit false

namespace MessageBus

/-- The subscription whose workers a call has still to send away. -/
def CallPhase.tended : CallPhase → List Subscription
  | .cancelling old | .draining old _ => [old]
  | _ => []

namespace Consumer

/-! ## What calls change -/

section

variable (s : Scene) (c : Consumer) (call : Call) (result : Outcome) (before after : ConsumerStatus)
  (watcher : Nat)

@[simp] theorem transition_crew : (c.transition before after).crew = c.crew := by
  unfold transition
  split <;> rfl

@[simp] theorem transition_slot : (c.transition before after).slot = c.slot := by
  unfold transition
  split <;> rfl

@[simp] theorem transition_rebuilds : (c.transition before after).rebuilds = c.rebuilds := by
  unfold transition
  split <;> rfl

@[simp] theorem transition_channels : (c.transition before after).channels = c.channels := by
  unfold transition
  split <;> rfl

theorem transition_of_ne (h : c.status ≠ before) : c.transition before after = c := by
  unfold transition
  rw [if_neg h]

@[simp] theorem subscribed_crew : (c.subscribed s call result).2.crew = c.crew := by
  unfold subscribed
  split <;> simp [answerTo, listenAgain]

@[simp] theorem subscribed_slot : (c.subscribed s call result).2.slot = c.slot := by
  unfold subscribed
  split <;> simp [answerTo, listenAgain]

@[simp] theorem subscribed_active : (c.subscribed s call result).2.active = none := by
  unfold subscribed
  split <;> simp [answerTo, listenAgain]

@[simp] theorem subscribed_rebuilds : (c.subscribed s call result).2.rebuilds = c.rebuilds := by
  unfold subscribed
  split <;> simp [answerTo, listenAgain]

@[simp] theorem subscribed_channels : (c.subscribed s call result).2.channels = c.channels := by
  unfold subscribed
  split <;> simp [answerTo, listenAgain]

/-- A call that was to subscribe says what it wanted in the log, and nothing else. -/
theorem subscribed_scene : ∃ logs, (c.subscribed s call result).1 = { s with logs } := by
  unfold subscribed
  split
  · exact ⟨_, rfl⟩
  · exact ⟨_, rfl⟩
  · dsimp only
    split
    · exact ⟨_, rfl⟩
    · exact ⟨s.logs, rfl⟩
  · exact ⟨_, rfl⟩
  · exact ⟨s.logs, rfl⟩

/-- Once a stop has begun, a call that was to subscribe does not change the stage. -/
theorem subscribed_status_of_isStopping (h : c.status.isStopping = true) :
    (c.subscribed s call result).2.status = c.status := by
  have hstarting : c.status ≠ .starting := fun heq => by rw [heq] at h; cases h
  have hresubscribing : c.status ≠ .resubscribing := fun heq => by rw [heq] at h; cases h
  unfold subscribed
  split <;> simp [answerTo, listenAgain, transition_of_ne, hstarting, hresubscribing]

/-- What a call waits for after a release. -/
def nextPhase : CallPhase := if call.purpose = .stop then .retiring result else .opening

theorem proceed_eq :
    (c.proceed s call result).2 = { c with active := some (call, nextPhase call result) } := by
  unfold proceed nextPhase
  split
  · next h => rw [if_pos h]
  · next h => rw [if_neg h]

end

theorem findWatcher_eq (s : Scene) (c : Consumer) (parent : Token) :
    ∃ watchToken watchers tokens, (findWatcher s c parent).2.1 = { c with watchToken, watchers } ∧
      (findWatcher s c parent).1 = { s with tokens } := by
  unfold findWatcher
  cases c.watchToken with
  | none => exact ⟨_, _, _, rfl, rfl⟩
  | some token =>
    dsimp only
    split
    · exact ⟨_, _, _, rfl, rfl⟩
    · exact ⟨c.watchToken, c.watchers, s.tokens, by simp, rfl⟩

/-- A watcher has read something and nothing came of it, or it has begun a rebuild. -/
def Heard (c c' : Consumer) : Prop :=
  ∃ watchers, c' = { c with watchers } ∨
    (c.status.admitsRebuild = true ∧ ∃ call, c' = { c with
      status := .resubscribing
      rebuilds := c.rebuilds + 1
      calls := c.calls + 1
      waiting := c.waiting ++ [call]
      watchers })

theorem heard_beginRebuild (s : Scene) (c : Consumer) (watcher : Nat) (w : Watcher)
    (logs : List LogRecord) :
    (∃ logs', (c.beginRebuild { s with logs } watcher w).1 = { s with logs := logs' }) ∧
      Heard c (c.beginRebuild { s with logs } watcher w).2 := by
  unfold beginRebuild
  split
  · next hadmits => exact ⟨⟨_, rfl⟩, _, .inr ⟨hadmits, _, rfl⟩⟩
  · exact ⟨⟨logs, rfl⟩, _, .inl rfl⟩

theorem heard_hearReconnect (s : Scene) (c : Consumer) (watcher : Nat) (w : Watcher)
    (signal : Signal) :
    (∃ logs, (c.hearReconnect s watcher w signal).1 = { s with logs }) ∧
      Heard c (c.hearReconnect s watcher w signal).2 := by
  unfold hearReconnect
  dsimp only
  split
  · exact heard_beginRebuild s c watcher _ _
  · exact heard_beginRebuild s c watcher _ _

theorem heard_of_hear {s s' : Scene} {c c' : Consumer} {watcher : Nat} {connected : Bool}
    (h : c.hear s watcher connected = some (s', c')) :
    (∃ logs, s' = { s with logs }) ∧ Heard c c' := by
  obtain ⟨w, -, h⟩ := Option.bind_eq_some_iff.1 h
  split at h
  · cases h
  split at h
  · obtain ⟨rfl, rfl⟩ := Prod.mk.inj (Option.some.inj h)
    exact ⟨⟨_, rfl⟩, _, .inl rfl⟩
  split at h
  · -- a reconnect
    obtain ⟨rfl, rfl⟩ := Prod.mk.inj (Option.some.inj h)
    exact heard_hearReconnect s c watcher _ _
  · split at h
    · cases h
    · split at h
      · obtain ⟨rfl, rfl⟩ := Prod.mk.inj (Option.some.inj h)
        exact heard_beginRebuild s c watcher _ _
      · obtain ⟨rfl, rfl⟩ := Prod.mk.inj (Option.some.inj h)
        exact ⟨⟨s.logs, rfl⟩, _, .inl rfl⟩

/-! ## Subscriptions and workers -/

/-- The subscriptions whose workers may still be there. -/
def tended (c : Consumer) : List Subscription :=
  c.slot.toList ++
    match c.active with
    | some (_, phase) => phase.tended
    | none => []

/-- What holds of a consumer whatever is done with it. -/
structure Sound (c : Consumer) : Prop where
  /-- A call that holds the lock has emptied the slot. -/
  slot : c.active.isSome = true → c.slot = none
  drained : ∀ k v, c.crew.views[k]? = some v →
    v.phases.all (·.isGone) = true ∨ ∃ sub ∈ c.tended, sub.pool = k
  attended : ∀ i < c.crew.processor.jobs.length, Crew.Attended (fun _ => True) c.crew i

theorem sound_ofSettings (settings : ConsumerSettings) (registry : Registry)
    (observers : List String) : Sound (ofSettings settings registry observers) where
  slot _ := rfl
  drained k v hv := by cases hv
  attended i hi := by cases hi

variable {s s' : Scene} {c c' : Consumer} {call : Call} {l : Label}

/-- A step that leaves the crew alone, and no subscription without its workers. -/
theorem Sound.of_crew (h : Sound c) (hcrew : c'.crew = c.crew)
    (hslot : c'.active.isSome = true → c'.slot = none)
    (htended : ∀ sub ∈ c.tended, sub ∈ c'.tended ∨ c.crew.isDrained sub.pool = true) :
    Sound c' where
  slot := hslot
  drained := by
    intro k v hv
    rw [hcrew] at hv
    rcases h.drained k v hv with hgone | ⟨sub, hsub, rfl⟩
    · exact .inl hgone
    · rcases htended sub hsub with hsub' | hdrained
      · exact .inr ⟨sub, hsub', rfl⟩
      · rw [Crew.isDrained_eq hv] at hdrained
        exact .inl hdrained
  attended := by
    rw [hcrew]
    exact h.attended

theorem Sound.subscribed (h : Sound c) (hactive : ∀ sub ∈ c.tended, c.slot = some sub)
    (result : Outcome) : Sound (c.subscribed s call result).2 := by
  refine h.of_crew (by simp) (by simp) ?_
  intro sub hsub
  left
  simp [tended, hactive sub hsub]

theorem Sound.proceed (h : Sound c) (hslot : c.slot = none)
    (htended : ∀ sub ∈ c.tended, c.crew.isDrained sub.pool = true) (result : Outcome) :
    Sound (c.proceed s call result).2 := by
  rw [proceed_eq]
  exact h.of_crew rfl (fun _ => hslot) fun sub hsub => .inr (htended sub hsub)

/-- The views after a step of the workers or the processor, where workers are still there only in
pools of which something holds. -/
theorem drained_of_stepped {P : Nat → Prop} {crew crew' : Crew} {label : Crew.Label}
    (hs : Crew.Stepped s crew label s' crew')
    (h : ∀ k v, crew.views[k]? = some v → v.phases.all (·.isGone) = true ∨ P k) :
    ∀ k v, crew'.views[k]? = some v → v.phases.all (·.isGone) = true ∨ P k := by
  intro k v' hv'
  have hk : k < crew.views.length := by
    rw [← hs.length_views]
    exact (List.getElem?_eq_some_iff.1 hv').1
  have hv := List.getElem?_eq_getElem hk
  refine (h k _ hv).imp_left fun hgone => ?_
  obtain ⟨v, hv, hgone⟩ := hs.isDrained hv hgone
  obtain rfl := Option.some.inj (hv.symm.trans hv')
  exact hgone

/-- A step of the workers and the processor. -/
theorem Sound.work (h : Sound c) {label : Crew.Label} {crew : Crew}
    (hs : Crew.Stepped s c.crew label s' crew) : Sound { c with crew } where
  slot := h.slot
  drained := drained_of_stepped hs h.drained
  attended := hs.attended h.attended

/-- News of closed channels change nothing that matters of the pools. -/
theorem Sound.of_views (h : Sound c) {crew : Crew} (hviews : crew.views = c.crew.views)
    (hproc : crew.processor = c.crew.processor) : Sound { c with crew } where
  slot := h.slot
  drained k v hv := h.drained k v (hviews ▸ hv)
  attended i hi := by
    have hattended := h.attended i (hproc ▸ hi)
    exact hattended.append hproc (by rw [hviews, List.append_nil])

/-- A subscription in the slot, with a pool that is new. -/
def filled (c : Consumer) (pool : Pool) (channel : Amqp.ChannelId) (tag : String) : Consumer :=
  { c with
    slot := some ⟨channel, tag, c.crew.pools.length⟩
    channels := c.channels ++ [channel]
    crew := { c.crew with pools := c.crew.pools ++ [pool] } }

theorem install_eq (s : Scene) (c : Consumer) (call : Call) (channel : Amqp.ChannelId)
    (tag : String) : ∃ s₁ pool, (c.install s call channel tag).2 =
      (Consumer.subscribed s₁ (c.filled pool channel tag) call (.ok ())).2 :=
  ⟨_, _, rfl⟩

theorem views_filled (c : Consumer) (pool : Pool) (channel : Amqp.ChannelId) (tag : String) :
    (c.filled pool channel tag).crew.views = c.crew.views ++ [pool.view] := List.map_append

/-- The slot is filled, where no other workers are left. -/
theorem Sound.install (h : Sound c) (htended : c.tended = []) (channel : Amqp.ChannelId)
    (tag : String) : Sound (c.install s call channel tag).2 := by
  obtain ⟨s₁, pool, hinstall⟩ := install_eq s c call channel tag
  have hviews := views_filled c pool channel tag
  rw [hinstall]
  refine ⟨by simp, ?_, ?_⟩
  · intro k v hv
    rw [subscribed_crew, hviews, List.getElem?_append] at hv
    split at hv
    · rcases h.drained k v hv with hgone | ⟨sub, hsub, -⟩
      · exact .inl hgone
      · rw [htended] at hsub
        cases hsub
    · next hk =>
      -- the pool that is new is the one of the subscription in the slot
      have hlength : c.crew.views.length = c.crew.pools.length := List.length_map _
      have hlast : k - c.crew.views.length < 1 := (List.getElem?_eq_some_iff.1 hv).1
      refine .inr ⟨⟨channel, tag, c.crew.pools.length⟩, by simp [tended, filled], ?_⟩
      dsimp only
      omega
  · intro i hi
    rw [subscribed_crew] at hi ⊢
    exact (h.attended i hi).append rfl hviews

/-! ## What is kept -/

theorem Sound.tended_eq (h : Sound c) {phase : CallPhase}
    (hactive : c.active = some (call, phase)) : c.tended = phase.tended := by
  have hslot : c.slot = none := h.slot (by rw [hactive]; rfl)
  unfold tended
  rw [hslot, hactive]
  rfl

/-- Where no workers are left to be sent away, all of them are gone. -/
theorem Sound.gone (h : Sound c) (htended : c.tended = []) (k : Nat) (v : PoolView)
    (hv : c.crew.views[k]? = some v) : v.phases.all (·.isGone) = true := by
  rcases h.drained k v hv with hgone | ⟨sub, hsub, -⟩
  · exact hgone
  · rw [htended] at hsub
    cases hsub

/-- And then every job is over: one that is not has a worker that waits for its end. -/
theorem Sound.finished (h : Sound c) (htended : c.tended = []) :
    ∀ j ∈ c.crew.processor.jobs, j.isOver = true := by
  intro j hj
  obtain ⟨i, hi⟩ := List.getElem?_of_mem hj
  rcases h.attended i (List.getElem?_eq_some_iff.1 hi).1 with hover | ⟨k, n, -, hbusy⟩
  · obtain ⟨j', hj', hover⟩ := Processor.isOver_iff.1 hover
    obtain rfl := Option.some.inj (hi.symm.trans hj')
    exact hover
  · obtain ⟨v, hv, hn⟩ := Crew.phase?_eq_some.1 hbusy
    cases Crew.isGone_of_all (h.gone htended k v hv) hn

theorem Sound.takeSlot (h : Sound c) (hactive : c.active = none) (connected : Bool) :
    Sound (c.takeSlot s call connected).2 := by
  have htended : c.tended = c.slot.toList := by
    unfold tended
    rw [hactive, List.append_nil]
  unfold Consumer.takeSlot
  split
  · refine h.subscribed ?_ _
    intro sub hsub
    rw [htended] at hsub
    simpa using hsub
  · cases hslot : c.slot with
    | none =>
      refine h.proceed hslot ?_ _
      intro sub hsub
      rw [htended, hslot] at hsub
      cases hsub
    | some old =>
      rw [hslot] at htended
      dsimp only
      split
      · refine h.of_crew rfl (fun _ => rfl) ?_
        intro sub hsub
        rw [htended] at hsub
        exact .inl hsub
      · refine h.of_crew rfl (fun _ => rfl) ?_
        intro sub hsub
        rw [htended] at hsub
        exact .inl hsub

/-- A call that waits for something else than the end of workers. -/
theorem Sound.of_phase (h : Sound c) {phase phase' : CallPhase}
    (hactive : c.active = some (call, phase))
    (htended : ∀ sub ∈ phase.tended, sub ∈ phase'.tended ∨ c.crew.isDrained sub.pool = true) :
    Sound { c with active := some (call, phase') } := by
  have hslot : c.slot = none := h.slot (by rw [hactive]; rfl)
  refine h.of_crew rfl (fun _ => hslot) ?_
  intro sub hsub
  rw [h.tended_eq hactive] at hsub
  refine (htended sub hsub).imp_left fun hsub' => ?_
  simp [tended, hslot, hsub']

theorem Sound.replied (h : Sound c) {phase : CallPhase} (hactive : c.active = some (call, phase))
    {r : Reply} (hr : c.replied s call phase r = some (s', c')) : Sound c' := by
  have hslot : c.slot = none := h.slot (by rw [hactive]; rfl)
  have htended := h.tended_eq hactive
  have hnone (hphase : phase.tended = []) (sub : Subscription) (hsub : sub ∈ c.tended) : False := by
    rw [htended, hphase] at hsub
    cases hsub
  have hsubscribed (hphase : phase.tended = []) (s : Scene) (result : Outcome) :
      Sound (c.subscribed s call result).2 :=
    h.subscribed (fun sub hsub => (hnone hphase sub hsub).elim) result
  unfold Consumer.replied at hr
  split at hr
  case h_1 | h_2 =>
    -- the subscription is cancelled, or it could not be
    obtain rfl : _ = c' := congrArg Prod.snd (Option.some.inj hr)
    exact h.of_phase hactive fun sub hsub => .inl hsub
  case h_3 | h_4 =>
    -- its channel is closed, or it could not be
    obtain rfl : _ = c' := congrArg Prod.snd (Option.some.inj hr)
    exact h.proceed hslot (fun sub hsub => (hnone rfl sub hsub).elim) _
  case h_5 =>
    -- there is a new channel
    obtain rfl : _ = c' := congrArg Prod.snd (Option.some.inj hr)
    exact h.of_phase hactive fun sub hsub => .inl hsub
  case h_7 step channel tag =>
    -- a request on the new channel is granted
    split at hr
    · obtain rfl : _ = c' := congrArg Prod.snd (Option.some.inj hr)
      exact h.of_phase hactive fun sub hsub => .inl hsub
    · obtain rfl : _ = c' := congrArg Prod.snd (Option.some.inj hr)
      exact h.install htended channel tag
  case h_6 | h_8 =>
    obtain rfl : _ = c' := congrArg Prod.snd (Option.some.inj hr)
    exact hsubscribed rfl _ _
  case h_9 => cases hr

theorem Sound.of_same (h : Sound c) (hcrew : c'.crew = c.crew) (hslot : c'.slot = c.slot)
    (hactive : c'.active = c.active) : Sound c' := by
  refine h.of_crew hcrew (by rw [hactive, hslot]; exact h.slot) ?_
  intro sub hsub
  left
  unfold tended at hsub ⊢
  rw [hslot, hactive]
  exact hsub

theorem Sound.step (h : Sound c) (hstep : c.step s l = some (s', c')) : Sound c' := by
  cases l with
  | start token | stop | reconnected =>
    obtain rfl : _ = c' := congrArg Prod.snd (Option.some.inj hstep)
    exact h.of_same rfl rfl rfl
  | watch =>
    cases hentering : c.entering with
    | nil => simp [Consumer.step, hentering] at hstep
    | cons first entering =>
      obtain ⟨id, parent⟩ := first
      obtain ⟨watchToken, watchers, -, hc, -⟩ := findWatcher_eq s { c with entering } parent
      simp only [Consumer.step, hentering] at hstep
      obtain rfl : _ = c' := congrArg Prod.snd (Option.some.inj hstep)
      exact h.of_same (by simp [hc]) (by simp [hc]) (by simp [hc])
  | enter connected =>
    cases hactive : c.active with
    | some _ => simp [Consumer.step, hactive] at hstep
    | none =>
      cases hwaiting : c.waiting with
      | nil => simp [Consumer.step, hactive, hwaiting] at hstep
      | cons call waiting =>
        simp only [Consumer.step, hactive, hwaiting] at hstep
        obtain rfl : _ = c' := congrArg Prod.snd (Option.some.inj hstep)
        have hsound : Sound { c with waiting, active := none } := h.of_same rfl rfl hactive.symm
        exact hsound.takeSlot rfl connected
  | reply r =>
    cases hactive : c.active with
    | none => simp [Consumer.step, hactive] at hstep
    | some a =>
      simp only [Consumer.step, hactive] at hstep
      exact h.replied hactive hstep
  | drained channelOpen =>
    simp only [Consumer.step] at hstep
    split at hstep
    · next call old connected hactive =>
      split at hstep
      · next hdrained =>
        have hslot : c.slot = none := h.slot (by rw [hactive]; rfl)
        -- the one subscription that was tended has no workers left
        have hpool (sub : Subscription) (hsub : sub ∈ c.tended) :
            c.crew.isDrained sub.pool = true := by
          rw [h.tended_eq hactive] at hsub
          rw [List.mem_singleton.1 hsub, hdrained]
        split at hstep
        · obtain rfl : _ = c' := congrArg Prod.snd (Option.some.inj hstep)
          exact h.of_crew rfl (fun _ => hslot) fun sub hsub => .inr (hpool sub hsub)
        · obtain rfl : _ = c' := congrArg Prod.snd (Option.some.inj hstep)
          exact h.proceed hslot hpool _
      · cases hstep
    · cases hstep
  | retire =>
    simp only [Consumer.step] at hstep
    split at hstep
    · next call result hactive =>
      obtain rfl : _ = c' := congrArg Prod.snd (Option.some.inj hstep)
      refine h.of_crew rfl (fun hsome => by cases hsome) ?_
      intro sub hsub
      rw [h.tended_eq hactive] at hsub
      cases hsub
    · cases hstep
  | hear watcher connected =>
    obtain ⟨-, watchers, rfl | ⟨-, call, rfl⟩⟩ := heard_of_hear hstep
    · exact h.of_same rfl rfl rfl
    · exact h.of_same rfl rfl rfl
  | channelClosed =>
    obtain rfl : _ = c' := congrArg Prod.snd (Option.some.inj hstep)
    have hviews : ({ c.crew with pools := c.crew.pools.map Pool.channelClosed } : Crew).views =
        c.crew.views := by
      simp [Crew.views, Pool.view_channelClosed]
    exact (h.of_views hviews rfl).of_same rfl rfl rfl
  | work label =>
    obtain ⟨⟨s₁, crew⟩, hcrew, hc⟩ := Option.map_eq_some_iff.1 hstep
    obtain rfl : _ = c' := congrArg Prod.snd hc
    exact h.work (Crew.stepped_of_step hcrew)

/-! ## Histories -/

/-- What happens to a consumer. -/
inductive Move where
  /-- It takes a step in a scene. -/
  | own (s : Scene) (l : Label)
  | connectHandler (h : Handler)
  | addObserver (name : String)

/-- The consumer after a move; one that cannot be made changes nothing. -/
def move (c : Consumer) : Move → Consumer
  | .own s l => ((c.step s l).map Prod.snd).getD c
  | .connectHandler h =>
    { c with crew := { c.crew with processor := c.crew.processor.connectHandler h } }
  | .addObserver name =>
    { c with crew := { c.crew with processor := c.crew.processor.addObserver name } }

/-- The consumer after some moves. -/
def moves (c : Consumer) (ms : List Move) : Consumer := ms.foldl move c

theorem move_own (c : Consumer) (s : Scene) (l : Label) :
    c.move (.own s l) = c ∨ ∃ s', c.step s l = some (s', c.move (.own s l)) := by
  cases h : c.step s l with
  | none => exact .inl (by simp [move, h])
  | some r => exact .inr ⟨r.1, by simp [move, h]⟩

theorem Sound.move (h : Sound c) (m : Move) : Sound (c.move m) := by
  cases m with
  | own s l =>
    rcases c.move_own s l with hsame | ⟨s', hstep⟩
    · rw [hsame]
      exact h
    · exact h.step hstep
  | connectHandler _ | addObserver _ => exact ⟨h.slot, h.drained, h.attended⟩

theorem Sound.moves (h : Sound c) (ms : List Move) : Sound (c.moves ms) :=
  List.foldlRecOn (motive := Sound) ms Consumer.move h fun _ h m _ => h.move m

/-! ## After a stop -/

/-- A stop is over, and no start has come after it. -/
structure Stopped (c : Consumer) : Prop where
  status : c.status.isStopping = true
  slot : c.slot = none
  /-- Whoever holds the lock is another stop, at its end. -/
  active : ∀ call phase, c.active = some (call, phase) → ∃ result, phase = .retiring result
  drained : ∀ (k : Nat) (v : PoolView), c.crew.views[k]? = some v → v.phases.all (·.isGone) = true
  finished : ∀ j ∈ c.crew.processor.jobs, j.isOver = true

theorem Sound.stopped (h : Sound c) (hstep : c.step s .retire = some (s', c')) : Stopped c' := by
  simp only [Consumer.step] at hstep
  split at hstep
  · next call result hactive =>
    obtain rfl : _ = c' := congrArg Prod.snd (Option.some.inj hstep)
    have htended : c.tended = [] := h.tended_eq hactive
    exact ⟨rfl, h.slot (by rw [hactive]; rfl), fun _ _ hnone => (nomatch hnone), h.gone htended,
      h.finished htended⟩
  · cases hstep

/-- Without workers, and with all jobs over, nothing is handed to the processor or done by it. -/
theorem processor_of_stepped {crew crew' : Crew} {label : Crew.Label}
    (hs : Crew.Stepped s crew label s' crew')
    (hdrained : ∀ (k : Nat) (v : PoolView), crew.views[k]? = some v →
      v.phases.all (·.isGone) = true)
    (hover : ∀ j ∈ crew.processor.jobs, j.isOver = true) :
    crew'.processor = crew.processor ∧ ∃ tokens, s' = { s with tokens } := by
  have hran : ¬ ∃ i j j', crew.processor.Ran s crew'.processor s' i j j' := by
    rintro ⟨i, j, j', hran⟩
    have hfinished := hover j (List.mem_of_getElem? hran.found)
    rw [hran.onward.isOver] at hfinished
    cases hfinished
  refine ⟨?_, hs.scene.resolve_left hran⟩
  rcases hs.jobs with hruns | ⟨k, n, d, a, t, hidle, -, -⟩ | hproc
  · exact absurd hruns hran
  · -- a worker that could hand over a job is gone
    obtain ⟨v, hv, hn⟩ := Crew.phase?_eq_some.1 hidle
    cases Crew.isGone_of_all (hdrained k v hv) hn
  · exact hproc

/-- What stays as it is after a stop. -/
structure Still (c c' : Consumer) : Prop where
  rebuilds : c'.rebuilds = c.rebuilds
  channels : c'.channels = c.channels
  jobs : c'.crew.processor.jobs = c.crew.processor.jobs

theorem still_refl (c : Consumer) : Still c c := ⟨rfl, rfl, rfl⟩

theorem Still.trans {c₁ c₂ c₃ : Consumer} (h : Still c₁ c₂) (h' : Still c₂ c₃) : Still c₁ c₃ where
  rebuilds := h'.rebuilds.trans h.rebuilds
  channels := h'.channels.trans h.channels
  jobs := h'.jobs.trans h.jobs

/-- Whether a step is the beginning of a start. -/
def Label.isStart : Label → Bool
  | .start _ => true
  | _ => false

/-- A call that gets the lock after a stop: one that was to subscribe does nothing. -/
theorem Stopped.takeSlot (h : Stopped c) (connected : Bool) :
    Stopped (c.takeSlot s call connected).2 ∧ Still c (c.takeSlot s call connected).2 ∧
      ∃ logs, (c.takeSlot s call connected).1 = { s with logs } := by
  unfold Consumer.takeSlot
  split
  · -- the call was to subscribe, and finds that a stop has begun
    refine ⟨⟨?_, ?_, ?_, ?_, ?_⟩, ⟨by simp, by simp, by simp⟩, subscribed_scene _ _ _ _⟩
    · rw [subscribed_status_of_isStopping _ _ _ _ h.status, h.status]
    · rw [subscribed_slot, h.slot]
    · simp
    · rw [subscribed_crew]
      exact h.drained
    · rw [subscribed_crew]
      exact h.finished
  · next hstop =>
    -- the call is another stop, and there is nothing to release
    have hpurpose : call.purpose = .stop := by
      by_contra hne
      exact hstop ⟨hne, h.status⟩
    rw [h.slot]
    dsimp only
    refine ⟨?_, ?_, ?_⟩
    · rw [proceed_eq]
      refine ⟨h.status, h.slot, ?_, h.drained, h.finished⟩
      rintro call' phase hactive
      obtain ⟨-, rfl⟩ := Prod.mk.inj (Option.some.inj hactive)
      exact ⟨.ok (), by rw [nextPhase, if_pos hpurpose]⟩
    · rw [proceed_eq]
      exact ⟨rfl, rfl, rfl⟩
    · unfold Consumer.proceed
      rw [hpurpose]
      exact ⟨s.logs, rfl⟩

theorem Stopped.of_same (h : Stopped c) (hstatus : c'.status = c.status) (hcrew : c'.crew = c.crew)
    (hslot : c'.slot = c.slot) (hactive : c'.active = c.active) : Stopped c' where
  status := by rw [hstatus, h.status]
  slot := by rw [hslot, h.slot]
  active := by rw [hactive]; exact h.active
  drained := by rw [hcrew]; exact h.drained
  finished := by rw [hcrew]; exact h.finished

/-- Every step but the beginning of a start leaves a stopped consumer stopped, and changes nothing
in the scene but tokens and the log. -/
theorem Stopped.step (h : Stopped c) (hl : l.isStart = false)
    (hstep : c.step s l = some (s', c')) :
    Stopped c' ∧ Still c c' ∧ ∃ tokens logs, s' = { s with tokens, logs } := by
  have hretiring {call : Call} {phase : CallPhase} (hactive : c.active = some (call, phase)) :
      ∃ result, phase = .retiring result := h.active call phase hactive
  cases l with
  | start token => cases hl
  | stop =>
    obtain ⟨rfl, rfl⟩ := Prod.mk.inj (Option.some.inj hstep)
    exact ⟨⟨rfl, h.slot, h.active, h.drained, h.finished⟩, ⟨rfl, rfl, rfl⟩, s.tokens, s.logs, rfl⟩
  | reconnected =>
    obtain ⟨rfl, rfl⟩ := Prod.mk.inj (Option.some.inj hstep)
    exact ⟨h.of_same rfl rfl rfl rfl, ⟨rfl, rfl, rfl⟩, s.tokens, s.logs, rfl⟩
  | watch =>
    cases hentering : c.entering with
    | nil => simp [Consumer.step, hentering] at hstep
    | cons first entering =>
      obtain ⟨id, parent⟩ := first
      obtain ⟨watchToken, watchers, tokens, hc, hs⟩ := findWatcher_eq s { c with entering } parent
      simp only [Consumer.step, hentering] at hstep
      obtain ⟨rfl, rfl⟩ := Prod.mk.inj (Option.some.inj hstep)
      refine ⟨h.of_same ?_ ?_ ?_ ?_, ⟨?_, ?_, ?_⟩, tokens, s.logs, hs⟩ <;> simp [hc]
  | enter connected =>
    cases hactive : c.active with
    | some _ => simp [Consumer.step, hactive] at hstep
    | none =>
      cases hwaiting : c.waiting with
      | nil => simp [Consumer.step, hactive, hwaiting] at hstep
      | cons call waiting =>
        simp only [Consumer.step, hactive, hwaiting] at hstep
        obtain ⟨rfl, rfl⟩ := Prod.mk.inj (Option.some.inj hstep)
        have hstopped : Stopped { c with waiting, active := none } :=
          h.of_same rfl rfl rfl hactive.symm
        obtain ⟨htaken, hstill, logs, hs⟩ := hstopped.takeSlot connected
        exact ⟨htaken, ⟨hstill.rebuilds, hstill.channels, hstill.jobs⟩, s.tokens, logs, hs⟩
  | reply r =>
    cases hactive : c.active with
    | none => simp [Consumer.step, hactive] at hstep
    | some holder =>
      obtain ⟨call, phase⟩ := holder
      obtain ⟨result, rfl⟩ := hretiring hactive
      simp only [Consumer.step, hactive] at hstep
      cases r <;> cases hstep
  | drained channelOpen =>
    cases hactive : c.active with
    | none => simp [Consumer.step, hactive] at hstep
    | some holder =>
      obtain ⟨call, phase⟩ := holder
      obtain ⟨result, rfl⟩ := hretiring hactive
      simp [Consumer.step, hactive] at hstep
  | retire =>
    simp only [Consumer.step] at hstep
    split at hstep
    · next call result hactive =>
      obtain ⟨rfl, rfl⟩ := Prod.mk.inj (Option.some.inj hstep)
      refine ⟨⟨rfl, h.slot, fun _ _ hnone => (nomatch hnone), h.drained, h.finished⟩,
        ⟨rfl, rfl, rfl⟩, ?_⟩
      -- the watchers are sent away, if there were any
      cases c.watchToken with
      | none => exact ⟨s.tokens, _, rfl⟩
      | some token => exact ⟨_, _, rfl⟩
    · cases hstep
  | hear watcher connected =>
    obtain ⟨⟨logs, hs⟩, watchers, rfl | ⟨hadmits, -⟩⟩ := heard_of_hear hstep
    · exact ⟨h.of_same rfl rfl rfl rfl, ⟨rfl, rfl, rfl⟩, s.tokens, logs, hs⟩
    · -- no rebuild begins, since none is admitted once a stop has begun
      have hstatus := h.status
      cases hc : c.status <;> simp_all [ConsumerStatus.admitsRebuild, ConsumerStatus.isStopping]
  | channelClosed =>
    obtain ⟨rfl, rfl⟩ := Prod.mk.inj (Option.some.inj hstep)
    have hviews : ({ c.crew with pools := c.crew.pools.map Pool.channelClosed } : Crew).views =
        c.crew.views := by
      simp [Crew.views, Pool.view_channelClosed]
    refine ⟨⟨h.status, h.slot, h.active, ?_, h.finished⟩, ⟨rfl, rfl, rfl⟩, s.tokens, s.logs, rfl⟩
    intro k v hv
    exact h.drained k v (hviews ▸ hv)
  | work label =>
    obtain ⟨⟨s₁, crew⟩, hcrew, hc⟩ := Option.map_eq_some_iff.1 hstep
    obtain ⟨rfl, rfl⟩ := Prod.mk.inj hc
    have hs := Crew.stepped_of_step hcrew
    obtain ⟨hproc, tokens, htokens⟩ := processor_of_stepped hs h.drained h.finished
    refine ⟨⟨h.status, h.slot, h.active, ?_, ?_⟩, ⟨rfl, rfl, ?_⟩, tokens, s.logs, htokens⟩
    · intro k v hv
      exact (drained_of_stepped (P := fun _ => False) hs
        (fun k v hv => .inl (h.drained k v hv)) k v hv).resolve_right id
    · dsimp only
      rw [hproc]
      exact h.finished
    · dsimp only
      rw [hproc]

/-- Whether a move is the beginning of a start. -/
def Move.isStart : Move → Bool
  | .own _ l => l.isStart
  | _ => false

theorem Stopped.move (h : Stopped c) {m : Move} (hm : m.isStart = false) :
    Stopped (c.move m) ∧ Still c (c.move m) := by
  cases m with
  | own s l =>
    rcases c.move_own s l with hsame | ⟨s', hstep⟩
    · rw [hsame]
      exact ⟨h, still_refl c⟩
    · obtain ⟨hstopped, hstill, -⟩ := h.step hm hstep
      exact ⟨hstopped, hstill⟩
  | connectHandler _ | addObserver _ =>
    exact ⟨⟨h.status, h.slot, h.active, h.drained, h.finished⟩, rfl, rfl, rfl⟩

theorem Stopped.moves (h : Stopped c) {ms : List Move} (hms : ∀ m ∈ ms, m.isStart = false) :
    Stopped (c.moves ms) ∧ Still c (c.moves ms) := by
  induction ms generalizing c with
  | nil => exact ⟨h, still_refl c⟩
  | cons m rest ih =>
    obtain ⟨hmove, hstill⟩ := h.move (hms m List.mem_cons_self)
    obtain ⟨hstopped, hrest⟩ := ih hmove fun m' hm' => hms m' (List.mem_cons_of_mem m hm')
    exact ⟨hstopped, hstill.trans hrest⟩

/-- What holds of a consumer `c` on which a stop was over when it was `stopped`. -/
structure StopLaw (stopped c : Consumer) : Prop where
  status : c.status = .stopping ∨ c.status = .stopped
  /-- No subscription is in the slot or being released, and no channel in use. -/
  held : c.held = []
  channelsInUse : c.channelsInUse = []
  /-- No pool has workers left. -/
  workers : ∀ k, c.crew.isDrained k = true
  /-- Nothing is asked of the broker, a channel least of all. -/
  request : c.request? = none
  channels : c.channels = stopped.channels
  /-- No rebuild has begun. -/
  rebuilds : c.rebuilds = stopped.rebuilds
  /-- No delivery has been handed to the processor, and none is being handled. -/
  jobs : c.crew.processor.jobs = stopped.crew.processor.jobs
  finished : ∀ j ∈ c.crew.processor.jobs, j.isOver = true
  /-- What the next step does in the scene is to make or cancel tokens and to write to the log: no
  handler is called, and no delivery settled. -/
  silent : ∀ s s' c' l, l.isStart = false → c.step s l = some (s', c') →
    ∃ tokens logs, s' = { s with tokens, logs }

theorem Stopped.stopLaw {stopped : Consumer} (h : Stopped c) (hstill : Still stopped c) :
    StopLaw stopped c := by
  have hactive : c.active = none ∨ ∃ call result, c.active = some (call, .retiring result) := by
    cases hactive : c.active with
    | none => exact .inl rfl
    | some holder =>
      obtain ⟨call, phase⟩ := holder
      obtain ⟨result, rfl⟩ := h.active call phase hactive
      exact .inr ⟨call, result, rfl⟩
  have hheld : c.held = [] := by
    unfold held
    rw [h.slot]
    rcases hactive with hactive | ⟨call, result, hactive⟩ <;> rw [hactive] <;> rfl
  have hdrained := Crew.isDrained_of_views h.drained
  refine ⟨?_, hheld, ?_, hdrained, ?_, hstill.channels, hstill.rebuilds, hstill.jobs, h.finished,
    ?_⟩
  · have hstatus := h.status
    cases hc : c.status <;> simp_all [ConsumerStatus.isStopping]
  · unfold channelsInUse
    rw [hheld]
    rcases hactive with hactive | ⟨call, result, hactive⟩ <;> rw [hactive] <;> rfl
  · unfold request?
    rcases hactive with hactive | ⟨call, result, hactive⟩ <;> rw [hactive]
  · intro s s' c' l hl hstep
    exact (h.step hl hstep).2.2

/-- A stop that is over is final: whatever was under way when it was called and whatever happens
afterwards, nothing comes of it until somebody starts the consumer again. -/
theorem stop_law (settings : ConsumerSettings) (registry : Registry) (observers : List String)
    (before : List Move) (s s' : Scene) (stopped : Consumer)
    (hstop : ((ofSettings settings registry observers).moves before).step s .retire =
      some (s', stopped))
    (after : List Move) (hafter : ∀ m ∈ after, m.isStart = false) :
    StopLaw stopped (stopped.moves after) := by
  have hsound := (sound_ofSettings settings registry observers).moves before
  obtain ⟨h, hstill⟩ := (hsound.stopped hstop).moves hafter
  exact h.stopLaw hstill

/-- The law on a run: a start is under way when the stop is called, and goes on after it, and then
the connection is back. -/
theorem stop_law_start_under_way :
    let c := (ofSettings default default []).moves
      [.own default (.start 0), .own default .stop, .own default .watch, .own default (.enter true)]
    ∃ s' stopped, c.step default .retire = some (s', stopped) ∧
      stopped.waiting = [⟨0, .start 0⟩] ∧
      StopLaw stopped (stopped.moves [.own default (.enter true), .own default .reconnected,
        .own default (.hear 0 true)]) :=
  ⟨_, _, rfl, rfl, stop_law default default []
    [.own default (.start 0), .own default .stop, .own default .watch, .own default (.enter true)]
    default _ _ rfl
    [.own default (.enter true), .own default .reconnected, .own default (.hear 0 true)]
    (by decide)⟩

end Consumer

end MessageBus
