import Mathlib.Data.List.Induction
import Mathlib.Data.List.Nodup
import Mathlib.Data.List.Perm.Subperm
import MessageBus.Proofs.Consumer.Ledger
import MessageBus.Proofs.Consumer.Progress

/-!
# Shifts

A shift is a pool at work with a clock that runs: the workers of one pool, as many as the settings
of its consumer allow deliveries to be handled at once, in a scene, with the times at which the
deliveries came. The clock goes on by a millisecond only where nothing more can be done for any
delivery; apart from that the steps are taken in any order, and the surroundings may change at any
time. Nobody leaves before the stream has ended. `manned_after` says what holds in every shift: each
job is over or has a worker of its own, and what has come is with the jobs or on the stream.
-/

set_option autoImplicit false

namespace MessageBus

/-- Whether a step does something for a delivery: reading news of channels does not, and neither
does leaving. -/
def Crew.Label.serves : Crew.Label → Bool
  | .grant | .resume _ | .pull _ _ | .finish _ _ | .rest _ _ => true
  | _ => false

/-- Whether a step sends a worker away. -/
def Crew.Label.dismisses : Crew.Label → Bool
  | .leave _ _ | .dismiss _ => true
  | _ => false

/-- Whether something can be done for a delivery now. -/
def Crew.isReady (s : Scene) (c : Crew) : Bool :=
  c.labels.any fun l => l.serves && (c.step s l).isSome

/-- A pool at work. -/
structure Shift where
  scene : Scene
  crew : Crew
  /-- Each delivery that came, with its time. -/
  arrivals : List (Nat × Delivery × Acknowledger) := []

namespace Shift

/-- What happens in a shift. -/
inductive Event where
  /-- A step of the crew, or of what it works with. -/
  | step (l : Crew.Label)
  /-- A millisecond goes by, if nothing can be done. -/
  | tick
  /-- Something else happens in the scene. -/
  | elsewhere (s : Scene)
  | connectHandler (h : Handler)
  | addObserver (name : String)

/-- The time. -/
def now (h : Shift) : Nat := h.scene.now

/-- The delivery that a step brings, with its time. -/
def arrival (h : Shift) : Crew.Label → List (Nat × Delivery × Acknowledger)
  | .arrive 0 (.delivery d a) => if h.crew.isStreaming 0 then [(h.now, d, a)] else []
  | _ => []

theorem arrival_of_ne {h : Shift} {l : Crew.Label} (hne : ∀ d a, l ≠ .arrive 0 (.delivery d a)) :
    h.arrival l = [] := by
  unfold arrival
  split
  · exact absurd rfl (hne _ _)
  · rfl

/-- The shift after a step; one that cannot be taken changes nothing, and nobody is sent away. -/
def take (h : Shift) (l : Crew.Label) : Shift :=
  if l.dismisses then h
  else
    match h.crew.step h.scene l with
    | none => h
    | some (scene, crew) => ⟨scene, crew, h.arrivals ++ h.arrival l⟩

/-- The shift after an event. -/
def next (h : Shift) : Event → Shift
  | .step l => h.take l
  | .tick => if h.crew.isReady h.scene then h else { h with scene := h.scene.after 1 }
  | .elsewhere s => { h with scene := { s with now := h.now } }
  | .connectHandler handler =>
    { h with crew := { h.crew with processor := h.crew.processor.connectHandler handler } }
  | .addObserver name =>
    { h with crew := { h.crew with processor := h.crew.processor.addObserver name } }

/-- The shift after some events. -/
def after (h : Shift) (es : List Event) : Shift := es.foldl next h

/-- A shift begins: a consumer has a processor for its settings and a pool of workers. -/
def start (settings : ConsumerSettings) (registry : Registry) (observers : List String) (s : Scene)
    (parent : Token) : Shift where
  scene := (Pool.spawn s parent settings.concurrencyLimit.toNat).1
  crew :=
    { processor := .ofSettings settings registry observers
      pools := [(Pool.spawn s parent settings.concurrencyLimit.toNat).2] }

/-! ## Steps in a shift -/

/-- A step that is taken in a shift, or nothing. -/
theorem take_cases (h : Shift) (l : Crew.Label) :
    h.take l = h ∨ ∃ s c, l.dismisses = false ∧ h.crew.step h.scene l = some (s, c) ∧
      h.take l = ⟨s, c, h.arrivals ++ h.arrival l⟩ := by
  unfold take
  cases hl : l.dismisses with
  | true => exact .inl rfl
  | false =>
    cases hstep : h.crew.step h.scene l with
    | none => exact .inl rfl
    | some r => exact .inr ⟨r.1, r.2, rfl, rfl, rfl⟩

theorem now_settle? {s s' : Scene} {a : Acknowledger} {what : Settlement} {r : Outcome}
    (h : s.settle? a what = some (r, s')) : s'.now = s.now := by
  unfold Scene.settle? at h
  cases a with
  | scripted tag ackError nackError =>
    obtain ⟨-, rfl⟩ := Prod.mk.inj (Option.some.inj h)
    rfl
  | channel channel tag =>
    obtain ⟨⟨granted, broker⟩, -, hr⟩ := Option.map_eq_some_iff.1 h
    obtain ⟨-, rfl⟩ := Prod.mk.inj hr
    rfl

/-- An answer that is given at once takes no time. -/
theorem now_answer (s : Scene) (w : Situation) (q : Query) : (s.answer w q).2.now = s.now := by
  cases q
  case settle what =>
    simp only [Scene.answer]
    cases h : s.settle? w.acknowledger what with
    | none => rfl
    | some r => exact now_settle? h
  all_goals rfl

/-- Up to its next wait a task takes no time. -/
theorem now_advance {α : Type} (w : Situation) (t : Task α) (s : Scene) :
    (t.advance w s).2.now = s.now := by
  induction t generalizing s with
  | done a => rfl
  | ask q rest ih =>
    cases q
    case pause ms =>
      rw [Task.advance]
      split
      · exact ih () s
      · rfl
    case backoff ms =>
      rw [Task.advance]
      split
      · exact ih _ s
      · split
        · exact ih _ s
        · rfl
    all_goals
      simp only [Task.advance]
      split
      · exact (ih _ _).trans (now_answer _ _ _)
      · rfl

theorem now_onward {p : Processor} {s s' : Scene} {j j' : Job} (h : p.Onward s j s' j') :
    s'.now = s.now := by
  cases h with
  | admitted _ => rfl
  | resumed _ hwork => rw [← now_advance _ _ s, hwork]

/-- No step takes time. -/
theorem now_stepped {s s' : Scene} {c c' : Crew} {l : Crew.Label} (h : c.Stepped s l s' c') :
    s'.now = s.now := by
  rcases h.scene with ⟨i, j, j', hran⟩ | ⟨tokens, rfl⟩
  · exact now_onward hran.onward
  · rfl

theorem isOwn_of_serves {l : Crew.Label} (hl : l.serves = true) : l.isOwn = true := by
  cases l <;> first | rfl | cases hl

theorem isReady_of_step {s : Scene} {c : Crew} {l : Crew.Label} (hl : l.serves = true)
    (h : c.step s l ≠ none) : c.isReady s = true := by
  refine List.any_eq_true.2 ⟨l, Crew.mem_labels (isOwn_of_serves hl) h, ?_⟩
  rw [hl, Bool.true_and, Option.isSome_iff_ne_none]
  exact h

theorem exists_step_of_isReady {s : Scene} {c : Crew} (h : c.isReady s = true) :
    ∃ l, l.serves = true ∧ c.step s l ≠ none := by
  obtain ⟨l, -, hl⟩ := List.any_eq_true.1 h
  rw [Bool.and_eq_true, Option.isSome_iff_ne_none] at hl
  exact ⟨l, hl⟩

end Shift

/-! ## Workers and jobs -/

namespace Processor

/-- The jobs that are not over. -/
def unfinished (p : Processor) : List Nat :=
  (List.range p.jobs.length).filter fun i => !p.isOver i

theorem mem_unfinished {p : Processor} {i : Nat} :
    i ∈ p.unfinished ↔ i < p.jobs.length ∧ p.isOver i = false := by
  simp [unfinished]

theorem nodup_busy (p : Processor) : (p.unfinished.map WorkerPhase.busy).Nodup :=
  List.Nodup.map (fun _ _ hij => WorkerPhase.busy.inj hij) (List.nodup_range.filter _)

theorem countP_range_getElem? {α : Type} (f : α → Bool) (l : List α) :
    (List.range l.length).countP (fun i => (l[i]?).all f) = l.countP f := by
  induction l using List.reverseRecOn with
  | nil => rfl
  | append_singleton l a ih =>
    rw [List.length_append, List.length_singleton, List.range_succ, List.countP_append,
      List.countP_append, ← ih]
    congr 1
    · refine List.countP_congr fun i hi => ?_
      rw [List.getElem?_append_left (List.mem_range.1 hi)]
    · simp [List.countP_cons]

/-- A job that is not over has a permit or waits for one. -/
theorem inFlight_add_waiting (p : Processor) :
    p.inFlight + p.jobs.countP Job.isWaiting = p.unfinished.length := by
  have hover : (fun i => !p.isOver i) = fun i => (p.jobs[i]?).all fun j => !j.isOver := by
    funext i
    unfold isOver result? Job.isOver
    cases p.jobs[i]? <;> simp
  rw [unfinished, ← List.countP_eq_length_filter, hover, countP_range_getElem?, inFlight]
  induction p.jobs with
  | nil => rfl
  | cons j js ih =>
    rw [List.countP_cons, List.countP_cons, List.countP_cons, ← ih]
    unfold Job.isRunning Job.isWaiting Job.isOver Job.result?
    cases j.phase <;> simp <;> omega

end Processor

namespace Shift

/-- What holds in a shift of so many workers. -/
structure Manned (workers : Nat) (h : Shift) (v : PoolView) : Prop where
  views : h.crew.views = [v]
  size : v.phases.length = workers
  /-- What has come is with the jobs, in order, or on the stream. -/
  arrived : h.arrivals.map Prod.snd = h.crew.processor.tickets ++ deliveries v.stream
  busy : ∀ n i : Nat, v.phases[n]? = some (.busy i) → i < h.crew.processor.jobs.length
  /-- Each worker has a job of its own, ... -/
  distinct : ∀ n n' i : Nat, v.phases[n]? = some (.busy i) → v.phases[n']? = some (.busy i) →
    n = n'
  /-- ... and each job that is not over has a worker. -/
  attended : ∀ i < h.crew.processor.jobs.length, Crew.Attended (fun _ => True) h.crew i
  gone : ∀ n time : Nat, v.phases[n]? = some (.gone time) → v.stream = [] ∧ v.streaming = false
  balanced : h.crew.processor.Balanced
  permits : h.crew.processor.permits = max workers 1

variable {workers : Nat} {h : Shift} {v : PoolView}

theorem Manned.found (hm : Manned workers h v) : h.crew.views[0]? = some v := by rw [hm.views]; rfl

/-- A worker of the shift is one of its only pool. -/
theorem Manned.eq_zero (hm : Manned workers h v) {k : Nat} {v' : PoolView}
    (hv : h.crew.views[k]? = some v') : k = 0 ∧ v' = v := by
  rw [hm.views] at hv
  cases k with
  | zero => exact ⟨rfl, (Option.some.inj hv).symm⟩
  | succ k => simp at hv

/-- A job that is not over is one for which a worker waits. -/
theorem Manned.mem_phases (hm : Manned workers h v) {i : Nat}
    (hi : i ∈ h.crew.processor.unfinished) : WorkerPhase.busy i ∈ v.phases := by
  obtain ⟨hlt, hover⟩ := Processor.mem_unfinished.1 hi
  rcases hm.attended i hlt with hyes | ⟨k, n, -, hbusy⟩
  · rw [hyes] at hover
    cases hover
  · obtain ⟨v', hv', hn⟩ := Crew.phase?_eq_some.1 hbusy
    obtain ⟨-, rfl⟩ := hm.eq_zero hv'
    exact List.mem_of_getElem? hn

/-- No more jobs are under way than there are workers. -/
theorem Manned.length_unfinished (hm : Manned workers h v) :
    h.crew.processor.unfinished.length ≤ workers := by
  have hsub : h.crew.processor.unfinished.map WorkerPhase.busy ⊆ v.phases := by
    intro phase hphase
    obtain ⟨i, hi, rfl⟩ := List.mem_map.1 hphase
    exact hm.mem_phases hi
  have hlength := (List.subperm_of_subset (Processor.nodup_busy _) hsub).length_le
  rwa [List.length_map, hm.size] at hlength

/-- Where fewer jobs are under way than there are workers, some worker has none of them. -/
theorem Manned.exists_free (hm : Manned workers h v)
    (hlt : h.crew.processor.unfinished.length < workers) :
    ∃ (n : Nat) (phase : WorkerPhase), v.phases[n]? = some phase ∧
      ∀ i, phase = .busy i → h.crew.processor.isOver i = true := by
  by_contra hnone
  -- otherwise each worker has one of them, and no two the same
  have hall : ∀ phase ∈ v.phases,
      ∃ i ∈ h.crew.processor.unfinished, WorkerPhase.busy i = phase := by
    intro phase hphase
    obtain ⟨n, hn⟩ := List.getElem?_of_mem hphase
    by_contra hno
    refine hnone ⟨n, phase, hn, fun i hi => ?_⟩
    by_contra hover
    subst hi
    exact hno ⟨i, Processor.mem_unfinished.2 ⟨hm.busy n i hn, by simpa using hover⟩, rfl⟩
  have hnodup : v.phases.Nodup := by
    rw [List.nodup_iff_getElem?_ne_getElem?]
    intro n n' hlt hlt' heq
    obtain ⟨i, -, hi⟩ := hall _ (List.getElem_mem hlt')
    have hn' : v.phases[n']? = some (.busy i) := by rw [List.getElem?_eq_getElem hlt', hi]
    have hsame := hm.distinct n n' i (heq.trans hn') hn'
    omega
  have hsub : v.phases ⊆ h.crew.processor.unfinished.map WorkerPhase.busy := by
    intro phase hphase
    obtain ⟨i, hi, rfl⟩ := hall phase hphase
    exact List.mem_map_of_mem hi
  have hlength := (List.subperm_of_subset hnodup hsub).length_le
  rw [List.length_map, hm.size] at hlength
  omega

/-- A job that waits gets its permit at once. -/
theorem Manned.isReady_of_waiting (hm : Manned workers h v)
    (hwaiting : ∃ j ∈ h.crew.processor.jobs, j.isWaiting = true) :
    h.crew.isReady h.scene = true := by
  have hcount := h.crew.processor.inFlight_add_waiting
  have hpos : 0 < h.crew.processor.jobs.countP Job.isWaiting := List.countP_pos_iff.2 hwaiting
  have hfree : h.crew.processor.free ≠ 0 := by
    have hlength := hm.length_unfinished
    have hpermits := hm.balanced.permits
    have hmax := hm.permits
    omega
  obtain ⟨s', p', hgrant⟩ := Processor.exists_grant? hfree hwaiting h.scene
  exact isReady_of_step (l := .grant) rfl (by simp [Crew.step, hgrant])

/-- A job that has a permit begins at once. -/
theorem isReady_of_admitted {j : Job} (hj : j ∈ h.crew.processor.jobs) {since : Nat}
    (hphase : j.phase = .admitted since) : h.crew.isReady h.scene = true := by
  obtain ⟨i, hi⟩ := List.getElem?_of_mem hj
  obtain ⟨r, hr⟩ := Processor.exists_resume?_of_due? (s := h.scene) hi
    (by simp [Processor.due?, hphase])
  exact isReady_of_step (l := .resume i) rfl (by simp [Crew.step, hr])

/-! ## Every shift is manned -/

theorem length_jobs_of_stepped {s s' : Scene} {c c' : Crew} {l : Crew.Label}
    (hs : c.Stepped s l s' c') : c.processor.jobs.length ≤ c'.processor.jobs.length := by
  rcases hs.jobs with ⟨_, _, _, hran⟩ | ⟨_, _, _, _, _, -, -, hproc⟩ | hproc
  · rw [hran.jobs, List.length_set]
  · rw [hproc, Processor.request_jobs, List.length_append]
    omega
  · rw [hproc]

theorem permits_moves (p : Processor) (ms : List Processor.Move) :
    (p.moves ms).permits = p.permits := by
  rw [Processor.permits, Processor.moves_settings, Processor.permits]

variable {s : Scene} {c : Crew} {l : Crew.Label} {v' : PoolView}
  {more : List (Nat × Delivery × Acknowledger)}

/-- What a step has to keep, so that the shift is manned. -/
theorem Manned.of_stepped (hm : Manned workers h v) (hs : h.crew.Stepped h.scene l s c)
    (hviews : c.views = [v']) (hsize : v'.phases.length = v.phases.length)
    (harrived : (h.arrivals ++ more).map Prod.snd = c.processor.tickets ++ deliveries v'.stream)
    (hbusy : ∀ n i : Nat, v'.phases[n]? = some (.busy i) → i < c.processor.jobs.length)
    (hdistinct : ∀ n n' i : Nat, v'.phases[n]? = some (.busy i) → v'.phases[n']? = some (.busy i) →
      n = n')
    (hgone : ∀ n time : Nat, v'.phases[n]? = some (.gone time) →
      v'.stream = [] ∧ v'.streaming = false) :
    Manned workers ⟨s, c, h.arrivals ++ more⟩ v' := by
  obtain ⟨ms, hms⟩ := hs.processor
  refine ⟨hviews, hsize.trans hm.size, harrived, hbusy, hdistinct, hs.attended hm.attended, hgone,
    ?_, ?_⟩
  · rw [hms]
    exact hm.balanced.moves ms
  · rw [hms, permits_moves, hm.permits]

/-- A step that hands nothing over, after which no worker is busy that was not. -/
theorem Manned.of_tickets (hm : Manned workers h v) (hs : h.crew.Stepped h.scene l s c)
    (htickets : c.processor.tickets = h.crew.processor.tickets) (hviews : c.views = [v'])
    (hsize : v'.phases.length = v.phases.length)
    (hstream : deliveries v'.stream = deliveries v.stream ++ more.map Prod.snd)
    (hbusy : ∀ n i : Nat, v'.phases[n]? = some (.busy i) → v.phases[n]? = some (.busy i))
    (hgone : ∀ n time : Nat, v'.phases[n]? = some (.gone time) →
      v'.stream = [] ∧ v'.streaming = false) :
    Manned workers ⟨s, c, h.arrivals ++ more⟩ v' := by
  refine hm.of_stepped hs hviews hsize ?_ ?_ ?_ hgone
  · rw [List.map_append, hm.arrived, htickets, hstream, List.append_assoc]
  · intro n i hn
    exact Nat.lt_of_lt_of_le (hm.busy n i (hbusy n i hn)) (length_jobs_of_stepped hs)
  · intro n n' i hn hn'
    exact hm.distinct n n' i (hbusy n i hn) (hbusy n' i hn')

/-- A worker takes a delivery. -/
theorem Manned.pull (hm : Manned workers h v) {n : Nat} {d : Delivery} {a : Acknowledger}
    {rest : List StreamItem} (hs : h.crew.Stepped h.scene l s c)
    (hstream : v.stream = .delivery d a :: rest)
    (hproc : c.processor = (h.crew.processor.request d a v.token).1)
    (hviews : c.views = [v.rest.setPhase n (.busy h.crew.processor.jobs.length)]) :
    Manned workers ⟨s, c, h.arrivals⟩
      (v.rest.setPhase n (.busy h.crew.processor.jobs.length)) := by
  rw [← List.append_nil h.arrivals]
  refine hm.of_stepped hs hviews (List.length_set ..) ?_ ?_ ?_ ?_
  · have hrest : deliveries v.stream = (d, a) :: deliveries v.stream.tail := by
      rw [hstream]
      rfl
    calc (h.arrivals ++ []).map Prod.snd
        = h.arrivals.map Prod.snd := by rw [List.append_nil]
      _ = h.crew.processor.tickets ++ (d, a) :: deliveries v.stream.tail := by
        rw [hm.arrived, hrest]
      _ = (h.crew.processor.tickets ++ [(d, a)]) ++ deliveries v.stream.tail := by simp
      _ = c.processor.tickets ++ deliveries v.stream.tail := by
        rw [hproc, Processor.tickets_request]
  · intro m i hm'
    rw [hproc, Processor.request_jobs, List.length_append, List.length_singleton]
    rcases Crew.getElem?_set_eq hm' with ⟨-, hjob⟩ | hold
    · have hi := WorkerPhase.busy.inj hjob
      omega
    · have hi := hm.busy m i hold
      omega
  · -- the job is new, so no other worker is busy with it
    intro m m' i hm₁ hm₂
    rcases Crew.getElem?_set_eq hm₁ with ⟨rfl, hjob⟩ | hold
    · rcases Crew.getElem?_set_eq hm₂ with ⟨rfl, -⟩ | hold'
      · rfl
      · have hi := hm.busy m' i hold'
        have hi' := WorkerPhase.busy.inj hjob
        omega
    · rcases Crew.getElem?_set_eq hm₂ with ⟨rfl, hjob⟩ | hold'
      · have hi := hm.busy m i hold
        have hi' := WorkerPhase.busy.inj hjob
        omega
      · exact hm.distinct m m' i hold hold'
  · intro m time hm'
    rcases Crew.getElem?_set_eq hm' with ⟨-, hjob⟩ | hold
    · cases hjob
    · have hempty := (hm.gone m time hold).1
      rw [hstream] at hempty
      cases hempty

/-- A worker goes on, but not to a job, and what it leaves on the stream is all there was. -/
theorem Manned.setPhase (hm : Manned workers h v) {n : Nat} {phase : WorkerPhase}
    (hs : h.crew.Stepped h.scene l s c) (hproc : c.processor = h.crew.processor)
    (hviews : c.views = [v.setPhase n phase]) (hbusy : ∀ i, phase ≠ .busy i)
    (hgone : ∀ time, phase = .gone time → v.stream = [] ∧ v.streaming = false) :
    Manned workers ⟨s, c, h.arrivals⟩ (v.setPhase n phase) := by
  rw [← List.append_nil h.arrivals]
  refine hm.of_tickets hs (by rw [hproc]) hviews (List.length_set ..)
    (by simp [PoolView.setPhase]) ?_ ?_
  · intro m i hm'
    rcases Crew.getElem?_set_eq hm' with ⟨-, hphase⟩ | hold
    · exact absurd hphase (hbusy i)
    · exact hold
  · intro m time hm'
    rcases Crew.getElem?_set_eq hm' with ⟨-, hphase⟩ | hold
    · exact hgone time hphase
    · exact hm.gone m time hold

theorem deliveries_push (v : PoolView) (item : StreamItem) :
    deliveries (v.push item).stream =
      deliveries v.stream ++ if v.streaming then deliveries [item] else [] := by
  unfold PoolView.push
  cases v.streaming <;> simp

theorem Manned.arrival_eq (hm : Manned workers h v) (item : StreamItem) :
    (h.arrival (.arrive 0 item)).map Prod.snd =
      if v.streaming then deliveries [item] else [] := by
  have hstreaming : h.crew.isStreaming 0 = v.streaming := Crew.isStreaming_eq hm.found
  cases item with
  | fault => cases v.streaming <;> rfl
  | delivery d a =>
    simp only [arrival, hstreaming]
    cases v.streaming <;> rfl

/-- Something comes on the stream. -/
theorem Manned.push (hm : Manned workers h v) {item : StreamItem}
    (hs : h.crew.Stepped h.scene l s c) (hproc : c.processor = h.crew.processor)
    (hviews : c.views = [v.push item]) :
    Manned workers ⟨s, c, h.arrivals ++ h.arrival (.arrive 0 item)⟩ (v.push item) := by
  refine hm.of_tickets hs (by rw [hproc]) hviews (by simp) ?_ ?_ ?_
  · rw [hm.arrival_eq, deliveries_push]
  · intro n i hn
    rwa [PoolView.push_phases] at hn
  · intro n time hn
    rw [PoolView.push_phases] at hn
    obtain ⟨hempty, hended⟩ := hm.gone n time hn
    exact ⟨by simp [PoolView.push, hended, hempty], by simp [hended]⟩

/-- The stream ends. -/
theorem Manned.endStream (hm : Manned workers h v) (hs : h.crew.Stepped h.scene l s c)
    (hproc : c.processor = h.crew.processor) (hviews : c.views = [v.endStream]) :
    Manned workers ⟨s, c, h.arrivals ++ []⟩ v.endStream :=
  hm.of_tickets hs (by rw [hproc]) hviews rfl (by simp [PoolView.endStream]) (fun _ _ hn => hn)
    fun n time hn => ⟨(hm.gone n time hn).1, rfl⟩

/-- A worker takes a fault, and nothing comes of it. -/
theorem Manned.pass (hm : Manned workers h v) {rest : List StreamItem}
    (hs : h.crew.Stepped h.scene l s c) (hproc : c.processor = h.crew.processor)
    (hstream : v.stream = .fault :: rest) (hviews : c.views = [v.rest]) :
    Manned workers ⟨s, c, h.arrivals ++ []⟩ v.rest := by
  refine hm.of_tickets hs (by rw [hproc]) hviews rfl ?_ (fun _ _ hn => hn) ?_
  · rw [PoolView.rest, hstream, List.map_nil, List.append_nil]
    rfl
  · intro n time hn
    have hempty := (hm.gone n time hn).1
    rw [hstream] at hempty
    cases hempty

/-- Every step keeps a shift manned. -/
theorem Manned.take (hm : Manned workers h v) (l : Crew.Label) :
    ∃ v', Manned workers (h.take l) v' := by
  rcases h.take_cases l with hsame | ⟨s, c, hl, hstep, htake⟩
  · rw [hsame]
    exact ⟨v, hm⟩
  rw [htake]
  have hs := Crew.stepped_of_step hstep
  have hset {k : Nat} {v₀ v' : PoolView} (hv : h.crew.views[k]? = some v₀)
      (hviews : c.views = h.crew.views.set k v') : c.views = [v'] := by
    obtain ⟨rfl, -⟩ := hm.eq_zero hv
    rw [hviews, hm.views]
    rfl
  have hat {k : Nat} {v₀ : PoolView} (hv : h.crew.views[k]? = some v₀) : v₀ = v :=
    (hm.eq_zero hv).2
  have hquiet (hne : ∀ d a, l ≠ .arrive 0 (.delivery d a)) :
      h.arrivals ++ h.arrival l = h.arrivals := by
    rw [arrival_of_ne hne, List.append_nil]
  have hkeep (htickets : c.processor.tickets = h.crew.processor.tickets)
      (hviews : c.views = h.crew.views) : Manned workers ⟨s, c, h.arrivals ++ []⟩ v :=
    hm.of_tickets hs htickets (hviews.trans hm.views) rfl (by simp) (fun _ _ hn => hn) hm.gone
  cases Crew.stepped_of_step hstep with
  | grant hrun hviews =>
    obtain ⟨_, _, _, hran⟩ := Processor.ran_of_grant? hrun
    exact ⟨v, hkeep hran.tickets hviews⟩
  | resume hrun hviews =>
    obtain ⟨_, _, hran⟩ := Processor.ran_of_resume? hrun
    exact ⟨v, hkeep hran.tickets hviews⟩
  | news hnews hproc hviews =>
    refine ⟨v, ?_⟩
    have harrival : h.arrival l = [] := by cases l <;> first | rfl | cases hnews
    rw [harrival]
    exact hkeep (by rw [hproc]) hviews
  | dismiss => cases hl
  | leave => cases hl
  | @arrive k item _ hproc hviews =>
    cases k with
    | succ k =>
      refine ⟨v, hkeep (by rw [hproc]) ?_⟩
      rw [hviews, hm.views]
      simp
    | zero =>
      refine ⟨v.push item, hm.push hs hproc ?_⟩
      rw [hviews, hm.views]
      rfl
  | @endStream k _ hproc hviews =>
    cases k with
    | succ k =>
      refine ⟨v, hkeep (by rw [hproc]) ?_⟩
      rw [hviews, hm.views]
      simp
    | zero =>
      refine ⟨v.endStream, hm.endStream hs hproc ?_⟩
      rw [hviews, hm.views]
      rfl
  | finish hv hidle hstream hended hproc hviews =>
    obtain rfl := hat hv
    rw [hquiet (by simp)]
    exact ⟨_, hm.setPhase hs hproc (hset hv hviews) (by simp) fun _ _ => ⟨hstream, hended⟩⟩
  | rest hv hbusy hover hproc hviews =>
    obtain rfl := hat hv
    rw [hquiet (by simp)]
    exact ⟨_, hm.setPhase hs hproc (hset hv hviews) (by simp) (by simp)⟩
  | pull hv hidle hstream hproc hviews =>
    obtain rfl := hat hv
    rw [hquiet (by simp)]
    exact ⟨_, hm.pull hs hstream hproc (hset hv hviews)⟩
  | pullFault hv hidle hstream hproc hviews =>
    obtain rfl := hat hv
    rw [arrival_of_ne (by simp)]
    exact ⟨_, hm.pass hs hproc hstream (hset hv hviews)⟩

theorem Manned.next (hm : Manned workers h v) (e : Event) : ∃ v', Manned workers (h.next e) v' := by
  cases e with
  | step l => exact hm.take l
  | tick =>
    refine ⟨v, ?_⟩
    rw [Shift.next]
    split
    · exact hm
    · exact ⟨hm.views, hm.size, hm.arrived, hm.busy, hm.distinct, hm.attended, hm.gone, hm.balanced,
        hm.permits⟩
  | elsewhere s =>
    exact ⟨v, hm.views, hm.size, hm.arrived, hm.busy, hm.distinct, hm.attended, hm.gone,
      hm.balanced, hm.permits⟩
  | connectHandler handler =>
    exact ⟨v, hm.views, hm.size, hm.arrived, hm.busy, hm.distinct, hm.attended, hm.gone,
      hm.balanced.move (.connectHandler handler), hm.permits⟩
  | addObserver name =>
    exact ⟨v, hm.views, hm.size, hm.arrived, hm.busy, hm.distinct, hm.attended, hm.gone,
      hm.balanced.move (.addObserver name), hm.permits⟩

theorem Manned.after (hm : Manned workers h v) (es : List Event) :
    ∃ v', Manned workers (h.after es) v' := by
  induction es generalizing h v with
  | nil => exact ⟨v, hm⟩
  | cons e rest ih =>
    obtain ⟨v', hm'⟩ := hm.next e
    exact ih hm'

theorem manned_start (settings : ConsumerSettings) (registry : Registry) (observers : List String)
    (s : Scene) (parent : Token) :
    Manned settings.concurrencyLimit.toNat (start settings registry observers s parent)
      (Pool.spawn s parent settings.concurrencyLimit.toNat).2.view := by
  have hview := Pool.view_spawn s parent settings.concurrencyLimit.toNat
  have hidle {n : Nat} {phase : WorkerPhase}
      (hn : (Pool.spawn s parent settings.concurrencyLimit.toNat).2.view.phases[n]? = some phase) :
      phase = .idle := by
    rw [hview] at hn
    exact List.eq_of_mem_replicate (List.mem_of_getElem? hn)
  refine ⟨rfl, by simp [hview], by rw [hview]; rfl, ?_, ?_, ?_, ?_,
    Processor.balanced_ofSettings _ _ _, rfl⟩
  · intro n i hn
    cases hidle hn
  · intro n n' i hn
    cases hidle hn
  · intro i hi
    exact absurd hi (Nat.not_lt_zero i)
  · intro n time hn
    cases hidle hn

/-- Every shift is manned, whatever happens in it. -/
theorem manned_after (settings : ConsumerSettings) (registry : Registry) (observers : List String)
    (s : Scene) (parent : Token) (es : List Event) :
    ∃ v, Manned settings.concurrencyLimit.toNat
      ((start settings registry observers s parent).after es) v :=
  (manned_start settings registry observers s parent).after es

end Shift

end MessageBus
