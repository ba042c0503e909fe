import MessageBus.Consumer.Pool
import MessageBus.Proofs.Consumer.Admission

/-!
# What crews do

`stepped_of_step` says once what a step of a crew can be, in terms of the processor and of the views
of the pools: a view leaves out the news of closed channels, which no worker acts on. The histories
of a crew are lists of moves: besides its own steps, each in any scene, somebody else may hand a
delivery to the processor, add handlers and observers, and open more pools. To the processor all of
that is a history of its own, so it stays balanced.
-/

set_option autoImplicit false

namespace MessageBus

/-- What a pool is apart from the news of closed channels. -/
structure PoolView where
  token : Token
  stream : List StreamItem
  streaming : Bool
  phases : List WorkerPhase

theorem set_of_getElem? {α : Type} {l : List α} {i : Nat} {a : α} (h : l[i]? = some a) :
    l.set i a = l := by
  obtain ⟨hi, rfl⟩ := List.getElem?_eq_some_iff.1 h
  exact List.set_getElem_self hi

/-- An element that is replaced by one with the same image leaves the images as they are. -/
theorem map_set_of_getElem? {α β : Type} {f : α → β} {l : List α} {i : Nat} {a b : α}
    (h : l[i]? = some a) (hf : f b = f a) : (l.set i b).map f = l.map f := by
  rw [List.map_set, hf]
  exact set_of_getElem? (by rw [List.getElem?_map, h]; rfl)

/-- A change of one element is seen as a change of its image. -/
theorem map_modify {α β : Type} {f : α → β} {u : α → α} {g : β → β} (h : ∀ a, f (u a) = g (f a))
    (l : List α) (i : Nat) : (l.modify i u).map f = (l.map f).modify i g := by
  apply List.ext_getElem?
  intro n
  simp only [List.getElem?_map, List.getElem?_modify]
  split <;> cases l[n]? <;> simp [h]

namespace PoolView

/-- Something comes on the stream. -/
def push (v : PoolView) (item : StreamItem) : PoolView :=
  if v.streaming then { v with stream := v.stream ++ [item] } else v

/-- The stream ends. -/
def endStream (v : PoolView) : PoolView := { v with streaming := false }

/-- One worker goes on to another phase. -/
def setPhase (v : PoolView) (n : Nat) (phase : WorkerPhase) : PoolView :=
  { v with phases := v.phases.set n phase }

/-- The first item is gone from the stream. -/
def rest (v : PoolView) : PoolView := { v with stream := v.stream.tail }

theorem setPhase_of_getElem? {v : PoolView} {n : Nat} {phase : WorkerPhase}
    (h : v.phases[n]? = some phase) : v.setPhase n phase = v := by
  unfold setPhase
  rw [set_of_getElem? h]

@[simp] theorem push_phases (v : PoolView) (item : StreamItem) :
    (v.push item).phases = v.phases := by
  unfold push
  split <;> rfl

@[simp] theorem push_token (v : PoolView) (item : StreamItem) : (v.push item).token = v.token := by
  unfold push
  split <;> rfl

@[simp] theorem push_streaming (v : PoolView) (item : StreamItem) :
    (v.push item).streaming = v.streaming := by
  unfold push
  split <;> rfl

end PoolView

/-- Whether a worker in this phase is gone. -/
def WorkerPhase.isGone : WorkerPhase → Bool
  | .gone _ => true
  | _ => false

namespace Pool

def view (p : Pool) : PoolView where
  token := p.token
  stream := p.stream
  streaming := p.streaming
  phases := p.workers.toList.map Worker.phase

theorem view_push (p : Pool) (item : StreamItem) : (p.push item).view = p.view.push item := by
  unfold push PoolView.push view
  split <;> rfl

theorem view_channelClosed (p : Pool) : p.channelClosed.view = p.view := by
  unfold channelClosed view
  split
  · rfl
  · simp

theorem view_spawn (s : Scene) (parent : Token) (workers : Nat) :
    (spawn s parent workers).2.view =
      ⟨(s.makeToken (some parent)).2, [], true, List.replicate workers .idle⟩ := by
  simp [spawn, view]

theorem isDrained_eq (p : Pool) : p.isDrained = p.view.phases.all (·.isGone) := by
  unfold isDrained view
  rw [← Array.all_toList, List.all_map]
  congr 1

end Pool

namespace Crew

/-- The views of the pools. -/
def views (c : Crew) : List PoolView := c.pools.map Pool.view

theorem getElem?_views (c : Crew) (k : Nat) : c.views[k]? = (c.pools[k]?).map Pool.view :=
  List.getElem?_map

/-- What a worker is doing. -/
def phase? (c : Crew) (k n : Nat) : Option WorkerPhase := (c.views[k]?).bind (·.phases[n]?)

theorem phase?_eq_some {c : Crew} {k n : Nat} {phase : WorkerPhase} :
    c.phase? k n = some phase ↔ ∃ v, c.views[k]? = some v ∧ v.phases[n]? = some phase :=
  Option.bind_eq_some_iff

/-! ## The views after a step -/

theorem views_modifyPool {f : Pool → Pool} {g : PoolView → PoolView}
    (h : ∀ p, (f p).view = g p.view) (c : Crew) (k : Nat) :
    (c.modifyPool k f).views = c.views.modify k g :=
  map_modify h c.pools k

theorem views_modifyPool_of_same {f : Pool → Pool} (h : ∀ p, (f p).view = p.view) (c : Crew)
    (k : Nat) : (c.modifyPool k f).views = c.views := by
  rw [views_modifyPool (g := id) h]
  exact List.modify_id _ _

theorem views_setWorker (c : Crew) (k n : Nat) (p : Pool) (w : Worker) :
    (c.setWorker k n p w).views = c.views.set k (p.view.setPhase n w.phase) := by
  unfold views setWorker
  simp [Pool.view, PoolView.setPhase, List.map_set]

theorem getElem?_phases {p : Pool} {n : Nat} {w : Worker} (hw : p.workers[n]? = some w) :
    p.view.phases[n]? = some w.phase := by
  simp [Pool.view, hw]

/-- A worker that stays in its phase leaves the views as they are. -/
theorem views_setWorker_of_same {c : Crew} {k n : Nat} {p : Pool} {w w' : Worker}
    (hp : c.pools[k]? = some p) (hw : p.workers[n]? = some w) (h : w'.phase = w.phase) :
    (c.setWorker k n p w').views = c.views := by
  rw [views_setWorker, h, PoolView.setPhase_of_getElem? (getElem?_phases hw)]
  exact set_of_getElem? (by rw [getElem?_views, hp]; rfl)

/-! ## The steps of a crew -/

/-- Whether a step has to do with news of channels only. -/
def Label.isNews : Label → Bool
  | .heed _ _ | .channelClosed _ | .deafen _ => true
  | _ => false

/-- What a step can be. -/
inductive Stepped (s : Scene) (c : Crew) : Label → Scene → Crew → Prop where
  | grant {s' : Scene} {c' : Crew} (hrun : c.processor.grant? s = some (s', c'.processor))
      (hviews : c'.views = c.views) : Stepped s c .grant s' c'
  | resume {job : Nat} {s' : Scene} {c' : Crew}
      (hrun : c.processor.resume? s job = some (s', c'.processor))
      (hviews : c'.views = c.views) : Stepped s c (.resume job) s' c'
  | news {l : Label} {c' : Crew} (hl : l.isNews = true) (hproc : c'.processor = c.processor)
      (hviews : c'.views = c.views) : Stepped s c l s c'
  | dismiss {k : Nat} : Stepped s c (.dismiss k) (c.dismiss s k) c
  | arrive {k : Nat} {item : StreamItem} {c' : Crew} (hproc : c'.processor = c.processor)
      (hviews : c'.views = c.views.modify k (·.push item)) : Stepped s c (.arrive k item) s c'
  | endStream {k : Nat} {c' : Crew} (hproc : c'.processor = c.processor)
      (hviews : c'.views = c.views.modify k PoolView.endStream) : Stepped s c (.endStream k) s c'
  | leave {k n : Nat} {v : PoolView} {c' : Crew} (hv : c.views[k]? = some v)
      (hidle : v.phases[n]? = some .idle) (hcancelled : s.isCancelled v.token = true)
      (hproc : c'.processor = c.processor)
      (hviews : c'.views = c.views.set k (v.setPhase n (.gone s.now))) :
      Stepped s c (.leave k n) s c'
  | finish {k n : Nat} {v : PoolView} {c' : Crew} (hv : c.views[k]? = some v)
      (hidle : v.phases[n]? = some .idle) (hstream : v.stream = []) (hended : v.streaming = false)
      (hproc : c'.processor = c.processor)
      (hviews : c'.views = c.views.set k (v.setPhase n (.gone s.now))) :
      Stepped s c (.finish k n) s c'
  | pullFault {k n : Nat} {v : PoolView} {rest : List StreamItem} {c' : Crew}
      (hv : c.views[k]? = some v) (hidle : v.phases[n]? = some .idle)
      (hstream : v.stream = .fault :: rest) (hproc : c'.processor = c.processor)
      (hviews : c'.views = c.views.set k v.rest) : Stepped s c (.pull k n) s c'
  | pull {k n : Nat} {v : PoolView} {d : Delivery} {a : Acknowledger} {rest : List StreamItem}
      {c' : Crew} (hv : c.views[k]? = some v) (hidle : v.phases[n]? = some .idle)
      (hstream : v.stream = .delivery d a :: rest)
      (hproc : c'.processor = (c.processor.request d a v.token).1)
      (hviews : c'.views = c.views.set k (v.rest.setPhase n (.busy c.processor.jobs.length))) :
      Stepped s c (.pull k n) s c'
  | rest {k n job : Nat} {v : PoolView} {c' : Crew} (hv : c.views[k]? = some v)
      (hbusy : v.phases[n]? = some (.busy job)) (hover : c.processor.isOver job = true)
      (hproc : c'.processor = c.processor)
      (hviews : c'.views = c.views.set k (v.setPhase n .idle)) : Stepped s c (.rest k n) s c'

theorem view_of_stream {p : Pool} {item : StreamItem} {stream : List StreamItem}
    (hstream : p.stream = item :: stream) : { p with stream }.view = p.view.rest := by
  unfold PoolView.rest Pool.view
  rw [hstream]
  rfl

/-- What a worker does that is idle. -/
theorem stepped_of_idleStep {s s' : Scene} {c c' : Crew} {k n : Nat} {p : Pool} {w : Worker}
    {l : Label} (hl : l ∈ workerLabels k n) (hp : c.pools[k]? = some p)
    (hw : p.workers[n]? = some w) (hidle : w.phase = .idle)
    (h : c.idleStep s k n p w l = some (s', c')) : Stepped s c l s' c' := by
  have hv : c.views[k]? = some p.view := by rw [getElem?_views, hp]; rfl
  have hn : p.view.phases[n]? = some .idle := by rw [getElem?_phases hw, hidle]
  simp only [workerLabels, List.mem_cons, List.not_mem_nil, or_false] at hl
  rcases hl with rfl | rfl | rfl | rfl | rfl
  · cases h
  · -- it leaves
    simp only [idleStep] at h
    split at h
    · next hcancelled =>
      obtain ⟨rfl, rfl⟩ := Prod.mk.inj (Option.some.inj h)
      exact .leave hv hn hcancelled rfl (views_setWorker _ _ _ _ _)
    · cases h
  · -- it reads news, or hears that there will be none
    simp only [idleStep] at h
    split at h
    · split at h
      · obtain ⟨rfl, rfl⟩ := Prod.mk.inj (Option.some.inj h)
        exact .news rfl rfl (views_setWorker_of_same hp hw rfl)
      · split at h
        · obtain ⟨rfl, rfl⟩ := Prod.mk.inj (Option.some.inj h)
          exact .news rfl rfl (views_setWorker_of_same hp hw rfl)
        · cases h
    · cases h
  · -- it takes what comes next
    simp only [idleStep] at h
    split at h
    · cases h
    · next stream hstream =>
      obtain ⟨rfl, rfl⟩ := Prod.mk.inj (Option.some.inj h)
      refine .pullFault hv hn hstream rfl ?_
      rw [views_setWorker, view_of_stream hstream,
        PoolView.setPhase_of_getElem? (v := p.view.rest) (getElem?_phases hw)]
    · next d a stream hstream =>
      obtain ⟨rfl, rfl⟩ := Prod.mk.inj (Option.some.inj h)
      refine .pull hv hn hstream rfl ?_
      rw [views_setWorker, view_of_stream hstream]
      rfl
  · -- the stream has ended
    simp only [idleStep] at h
    split at h
    · next hended =>
      obtain ⟨rfl, rfl⟩ := Prod.mk.inj (Option.some.inj h)
      simp only [Bool.and_eq_true, List.isEmpty_iff, Bool.not_eq_true'] at hended
      exact .finish hv hn hended.1 hended.2 rfl (views_setWorker _ _ _ _ _)
    · cases h

theorem stepped_of_workerStep {s s' : Scene} {c c' : Crew} {k n : Nat} {l : Label}
    (hl : l ∈ workerLabels k n) (h : c.workerStep s k n l = some (s', c')) :
    Stepped s c l s' c' := by
  unfold workerStep at h
  cases hp : c.pools[k]? with
  | none => simp [hp] at h
  | some p =>
    cases hw : p.workers[n]? with
    | none => simp [hp, hw] at h
    | some w =>
      simp only [hp, hw, Option.bind_eq_bind, Option.bind_some] at h
      split at h
      · next hidle => exact stepped_of_idleStep hl hp hw hidle h
      · next job k' n' hbusy =>
        obtain ⟨rfl, rfl⟩ : k' = k ∧ n' = n := by simpa [workerLabels] using hl
        split at h
        · next hover =>
          obtain ⟨rfl, rfl⟩ := Prod.mk.inj (Option.some.inj h)
          refine .rest (v := p.view) ?_ ?_ hover rfl (views_setWorker _ _ _ _ _)
          · rw [getElem?_views, hp]; rfl
          · rw [getElem?_phases hw, hbusy]
        · cases h
      · cases h

theorem stepped_of_step {s s' : Scene} {c c' : Crew} {l : Label}
    (h : c.step s l = some (s', c')) : Stepped s c l s' c' := by
  cases l with
  | grant =>
    obtain ⟨r, hrun, hr⟩ := Option.map_eq_some_iff.1 h
    obtain ⟨rfl, rfl⟩ := Prod.mk.inj hr
    exact .grant hrun rfl
  | resume job =>
    obtain ⟨r, hrun, hr⟩ := Option.map_eq_some_iff.1 h
    obtain ⟨rfl, rfl⟩ := Prod.mk.inj hr
    exact .resume hrun rfl
  | arrive k item =>
    obtain ⟨rfl, rfl⟩ := Prod.mk.inj (Option.some.inj h)
    exact .arrive rfl (views_modifyPool (fun p => p.view_push item) c k)
  | endStream k =>
    obtain ⟨rfl, rfl⟩ := Prod.mk.inj (Option.some.inj h)
    exact .endStream rfl (views_modifyPool (fun p => rfl) c k)
  | channelClosed k =>
    obtain ⟨rfl, rfl⟩ := Prod.mk.inj (Option.some.inj h)
    exact .news rfl rfl (views_modifyPool_of_same Pool.view_channelClosed c k)
  | deafen k =>
    obtain ⟨rfl, rfl⟩ := Prod.mk.inj (Option.some.inj h)
    exact .news rfl rfl (views_modifyPool_of_same (f := Pool.deafen) (fun _ => rfl) c k)
  | dismiss k =>
    obtain ⟨rfl, rfl⟩ := Prod.mk.inj (Option.some.inj h)
    exact .dismiss
  | heed k n => exact stepped_of_workerStep (by simp [workerLabels]) h
  | pull k n => exact stepped_of_workerStep (by simp [workerLabels]) h
  | leave k n => exact stepped_of_workerStep (by simp [workerLabels]) h
  | finish k n => exact stepped_of_workerStep (by simp [workerLabels]) h
  | rest k n => exact stepped_of_workerStep (by simp [workerLabels]) h

/-- To the processor a step is a history of its own. -/
theorem Stepped.processor {s s' : Scene} {c c' : Crew} {l : Label} (h : Stepped s c l s' c') :
    ∃ ms, c'.processor = c.processor.moves ms := by
  cases h with
  | grant hrun _ => exact ⟨[.grant s], by simp [Processor.moves, Processor.move, hrun]⟩
  | @resume job _ _ hrun _ =>
    exact ⟨[.resume s job], by simp [Processor.moves, Processor.move, hrun]⟩
  | @pull _ _ v d a _ _ _ _ _ hproc _ => exact ⟨[.request d a v.token], hproc⟩
  | dismiss => exact ⟨[], rfl⟩
  | news _ hproc _ | arrive hproc _ | endStream hproc _ | leave _ _ _ hproc _
  | finish _ _ _ _ hproc _ | pullFault _ _ _ hproc _ | rest _ _ _ hproc _ => exact ⟨[], hproc⟩

/-- A step that is not one of a job changes nothing in the scene but its tokens. -/
theorem Stepped.scene {s s' : Scene} {c c' : Crew} {l : Label} (h : Stepped s c l s' c') :
    (∃ i j j', c.processor.Ran s c'.processor s' i j j') ∨ ∃ tokens, s' = { s with tokens } := by
  cases h with
  | grant hrun _ => exact .inl (Processor.ran_of_grant? hrun)
  | resume hrun _ => exact .inl ⟨_, Processor.ran_of_resume? hrun⟩
  | @dismiss k =>
    refine .inr ?_
    unfold Crew.dismiss
    split
    · exact ⟨s.tokens, rfl⟩
    · exact ⟨_, rfl⟩
  | news | arrive | endStream | leave | finish | pullFault | pull | rest =>
    exact .inr ⟨s.tokens, rfl⟩

/-! ## Histories -/

/-- What happens to a crew. -/
inductive Move where
  /-- It takes a step in a scene. -/
  | own (s : Scene) (l : Label)
  /-- Somebody else hands a delivery to the processor. -/
  | request (delivery : Delivery) (acknowledger : Acknowledger) (token : Token)
  | connectHandler (h : Handler)
  | addObserver (name : String)
  /-- One more pool begins its work. -/
  | spawn (s : Scene) (parent : Token) (workers : Nat)

/-- The crew after a move; one that cannot be made changes nothing. -/
def move (c : Crew) : Move → Crew
  | .own s l => ((c.step s l).map Prod.snd).getD c
  | .request delivery acknowledger token =>
    { c with processor := (c.processor.request delivery acknowledger token).1 }
  | .connectHandler h => { c with processor := c.processor.connectHandler h }
  | .addObserver name => { c with processor := c.processor.addObserver name }
  | .spawn s parent workers => { c with pools := c.pools ++ [(Pool.spawn s parent workers).2] }

/-- The crew after some moves. -/
def moves (c : Crew) (ms : List Move) : Crew := ms.foldl move c

/-- A step that cannot be taken changes nothing, and one that can is one of those there are. -/
theorem move_own (c : Crew) (s : Scene) (l : Label) :
    (c.step s l = none ∧ c.move (.own s l) = c) ∨
      ∃ s', c.step s l = some (s', c.move (.own s l)) ∧ Stepped s c l s' (c.move (.own s l)) := by
  cases h : c.step s l with
  | none => exact .inl ⟨rfl, by simp [move, h]⟩
  | some r =>
    obtain ⟨s', c'⟩ := r
    have hmove : c.move (.own s l) = c' := by simp [move, h]
    rw [hmove]
    exact .inr ⟨s', rfl, stepped_of_step h⟩

theorem exists_processor_move (c : Crew) (m : Move) :
    ∃ ms, (c.move m).processor = c.processor.moves ms := by
  cases m with
  | own s l =>
    rcases c.move_own s l with ⟨-, hsame⟩ | ⟨s', -, hstep⟩
    · exact ⟨[], by rw [hsame]; rfl⟩
    · exact hstep.processor
  | request delivery acknowledger token => exact ⟨[.request delivery acknowledger token], rfl⟩
  | connectHandler h => exact ⟨[.connectHandler h], rfl⟩
  | addObserver name => exact ⟨[.addObserver name], rfl⟩
  | spawn s parent workers => exact ⟨[], rfl⟩

/-- To the processor every history of its crew is a history of its own. -/
theorem exists_processor_moves (c : Crew) (ms : List Move) :
    ∃ ms', (c.moves ms).processor = c.processor.moves ms' :=
  Processor.exists_moves_foldl processor exists_processor_move c ms

theorem balanced_moves {c : Crew} (h : c.processor.Balanced) (ms : List Move) :
    (c.moves ms).processor.Balanced := by
  obtain ⟨ms', hms⟩ := c.exists_processor_moves ms
  rw [hms]
  exact h.moves ms'

/-- A job that is over stays as it is. -/
theorem getElem?_jobs_moves {c : Crew} {i : Nat} {j : Job} (hj : c.processor.jobs[i]? = some j)
    (hover : j.isOver = true) (ms : List Move) : (c.moves ms).processor.jobs[i]? = some j := by
  obtain ⟨ms', hms⟩ := c.exists_processor_moves ms
  rw [hms]
  exact Processor.getElem?_moves_of_isOver hj hover ms'

/-! ## Jobs and the workers that wait for them -/

/-- A job is over, or a worker waits for its end, in one of some pools. -/
def Attended (K : Nat → Prop) (c : Crew) (i : Nat) : Prop :=
  c.processor.isOver i = true ∨ ∃ k n, K k ∧ c.phase? k n = some (.busy i)

theorem phase?_modify {c c' : Crew} {f : PoolView → PoolView} {k : Nat}
    (hviews : c'.views = c.views.modify k f) (hf : ∀ v, (f v).phases = v.phases) (k' n : Nat) :
    c'.phase? k' n = c.phase? k' n := by
  unfold phase?
  rw [hviews, List.getElem?_modify]
  cases c.views[k']? with
  | none => rfl
  | some v =>
    simp only [Option.map_eq_map, Option.map_some, Option.bind_some]
    split
    · rw [hf]
    · rfl

theorem phase?_set_self {c c' : Crew} {k n : Nat} {v v' : PoolView} {was phase : WorkerPhase}
    (hv : c.views[k]? = some v) (hn : v.phases[n]? = some was)
    (hviews : c'.views = c.views.set k v') (hphases : v'.phases = v.phases.set n phase) :
    c'.phase? k n = some phase := by
  refine phase?_eq_some.2 ⟨v', ?_, ?_⟩
  · rw [hviews, List.getElem?_set_self (List.getElem?_eq_some_iff.1 hv).1]
  · rw [hphases, List.getElem?_set_self (List.getElem?_eq_some_iff.1 hn).1]

/-- A worker that goes on to another phase leaves the others in theirs. -/
theorem phase?_set {c c' : Crew} {k n : Nat} {v v' : PoolView} {phase : WorkerPhase}
    (hv : c.views[k]? = some v) (hviews : c'.views = c.views.set k v')
    (hphases : v'.phases = v.phases.set n phase) (k' n' : Nat) (hne : ¬ (k = k' ∧ n = n')) :
    c'.phase? k' n' = c.phase? k' n' := by
  unfold phase?
  rw [hviews, List.getElem?_set]
  by_cases hk : k = k'
  · subst hk
    have hn : n ≠ n' := fun hn => hne ⟨rfl, hn⟩
    rw [if_pos rfl, if_pos (List.getElem?_eq_some_iff.1 hv).1, hv, Option.bind_some,
      Option.bind_some, hphases, List.getElem?_set_ne hn]
  · rw [if_neg hk]

/-- A worker that waits for a job goes on only when the job is over. -/
theorem Attended.step {K : Nat → Prop} {s s' : Scene} {c c' : Crew} {l : Label} {i : Nat}
    (h : Attended K c i) (hs : Stepped s c l s' c') : Attended K c' i := by
  rcases h with hover | ⟨k, n, hK, hbusy⟩
  · obtain ⟨ms, hms⟩ := hs.processor
    left
    rw [hms]
    exact Processor.isOver_moves hover ms
  · -- a worker that is idle, or waits for another job, is not the one that waits for this job
    have hother {k' n' : Nat} {v v' : PoolView} {was phase : WorkerPhase}
        (hv : c.views[k']? = some v) (hwas : v.phases[n']? = some was)
        (hviews : c'.views = c.views.set k' v') (hphases : v'.phases = v.phases.set n' phase)
        (hne : was ≠ .busy i) : c'.phase? k n = some (.busy i) := by
      rw [phase?_set hv hviews hphases, hbusy]
      rintro ⟨rfl, rfl⟩
      have hphase : c.phase? k' n' = some was := phase?_eq_some.2 ⟨v, hv, hwas⟩
      exact hne (Option.some.inj (hphase.symm.trans hbusy))
    have hsame (hviews : c'.views = c.views) : c'.phase? k n = some (.busy i) := by
      unfold phase? at hbusy ⊢
      rw [hviews, hbusy]
    cases hs with
    | grant _ hviews | resume _ hviews | news _ _ hviews => exact .inr ⟨k, n, hK, hsame hviews⟩
    | dismiss => exact .inr ⟨k, n, hK, hbusy⟩
    | arrive _ hviews | endStream _ hviews =>
      refine .inr ⟨k, n, hK, ?_⟩
      rw [phase?_modify hviews (by simp [PoolView.endStream]), hbusy]
    | leave hv hidle _ _ hviews | finish hv hidle _ _ _ hviews | pull hv hidle _ _ hviews =>
      exact .inr ⟨k, n, hK, hother hv hidle hviews rfl (by simp)⟩
    | pullFault hv hidle _ _ hviews =>
      exact .inr ⟨k, n, hK, hother hv hidle hviews (set_of_getElem? hidle).symm (by simp)⟩
    | @rest k' n' job v _ hv hwas hover hproc hviews =>
      by_cases hjob : job = i
      · left
        rw [hproc, ← hjob]
        exact hover
      · exact .inr ⟨k, n, hK, hother hv hwas hviews rfl (by simpa using hjob)⟩

/-- More pools change nothing for the workers that are there. -/
theorem Attended.append {K : Nat → Prop} {c c' : Crew} {i : Nat} {vs : List PoolView}
    (h : Attended K c i) (hproc : c'.processor = c.processor) (hviews : c'.views = c.views ++ vs) :
    Attended K c' i := by
  rcases h with hover | ⟨k, n, hK, hbusy⟩
  · left
    rw [hproc, hover]
  · obtain ⟨v, hv, hn⟩ := phase?_eq_some.1 hbusy
    refine .inr ⟨k, n, hK, phase?_eq_some.2 ⟨v, ?_, hn⟩⟩
    rw [hviews, List.getElem?_append_left (List.getElem?_eq_some_iff.1 hv).1, hv]

/-- What a step is to the processor: a job runs on, or an idle worker hands a new one over and is
busy with it, or nothing changes. -/
theorem Stepped.jobs {s s' : Scene} {c c' : Crew} {l : Label} (hs : Stepped s c l s' c') :
    (∃ i j j', c.processor.Ran s c'.processor s' i j j') ∨
      (∃ k n d a t, c.phase? k n = some .idle ∧
        c'.phase? k n = some (.busy c.processor.jobs.length) ∧
        c'.processor = (c.processor.request d a t).1) ∨
      c'.processor = c.processor := by
  cases hs with
  | grant hrun _ => exact .inl (Processor.ran_of_grant? hrun)
  | resume hrun _ => exact .inl ⟨_, Processor.ran_of_resume? hrun⟩
  | @pull k n v d a _ _ hv hidle _ hproc hviews =>
    have hbusy := phase?_set_self hv hidle hviews rfl
    exact .inr (.inl ⟨k, n, d, a, v.token, phase?_eq_some.2 ⟨v, hv, hidle⟩, hbusy, hproc⟩)
  | dismiss => exact .inr (.inr rfl)
  | news _ hproc _ | arrive hproc _ | endStream hproc _ | leave _ _ _ hproc _
  | finish _ _ _ _ hproc _ | pullFault _ _ _ hproc _ | rest _ _ _ hproc _ =>
    exact .inr (.inr hproc)

/-- Where every job is over or attended, it is so after every step. -/
theorem Stepped.attended {s s' : Scene} {c c' : Crew} {l : Label} (hs : Stepped s c l s' c')
    (h : ∀ i < c.processor.jobs.length, Attended (fun _ => True) c i) :
    ∀ i < c'.processor.jobs.length, Attended (fun _ => True) c' i := by
  intro i hi
  by_cases hold : i < c.processor.jobs.length
  · exact (h i hold).step hs
  · -- the job is new, so a worker has just handed it over
    rcases hs.jobs with ⟨_, _, _, hran⟩ | ⟨k, n, d, a, t, -, hbusy, hproc⟩ | hproc
    · rw [hran.jobs, List.length_set] at hi
      exact absurd hi hold
    · rw [hproc, Processor.request_jobs, List.length_append, List.length_singleton] at hi
      obtain rfl : i = c.processor.jobs.length := by omega
      exact .inr ⟨k, n, trivial, hbusy⟩
    · rw [hproc] at hi
      exact absurd hi hold

theorem Stepped.length_views {s s' : Scene} {c c' : Crew} {l : Label} (hs : Stepped s c l s' c') :
    c'.views.length = c.views.length := by
  cases hs with
  | dismiss => rfl
  | grant _ hviews | resume _ hviews | news _ _ hviews | arrive _ hviews | endStream _ hviews
  | leave _ _ _ _ hviews | finish _ _ _ _ _ hviews | pullFault _ _ _ _ hviews
  | pull _ _ _ _ hviews | rest _ _ _ _ hviews => simp [hviews]

end Crew

end MessageBus
