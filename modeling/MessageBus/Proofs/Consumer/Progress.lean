import MessageBus.Proofs.Consumer.Crew
import Mathlib.Algebra.Ring.Nat
import Mathlib.Order.WellFounded

/-!
# Crews come to rest

Left to itself a crew takes only so many steps (`wellFounded_follows`): every pull shortens a
stream, every job has only so much work left between its waits, and a worker that does neither comes
closer to its end or has less news to read. A crew that can take no step, however much time passes,
has no job that could end; so if none of them waits for an answer that never comes, all jobs are
over, and every pool whose stream has ended or whose token is cancelled has no workers left.
-/

set_option autoImplicit false

namespace MessageBus

/-! ## Work comes to an end -/

namespace Parked

variable {α : Type}

/-- The next wait of a task that went on after another wait. -/
def Follows (later earlier : Parked α) : Prop :=
  ∃ s rest w s', earlier.wake? s = some rest ∧ later = (Task.advance w rest s').1

theorem acc_of_wake? {work : Parked α} (h : ∀ s, work.wake? s = none) : Acc Follows work := by
  refine .intro _ ?_
  rintro later ⟨s, rest, w, s', hwake, -⟩
  rw [h s] at hwake
  cases hwake

/-- A task has only so many waits. -/
theorem acc_advance (t : Task α) (w : Situation) (s : Scene) : Acc Follows (t.advance w s).1 := by
  induction t generalizing w s with
  | done a => exact acc_of_wake? fun _ => rfl
  | ask q rest ih =>
    cases q
    case pause ms =>
      rw [Task.advance]
      split
      · exact ih () w s
      · refine .intro _ ?_
        rintro later ⟨s', task, w', s'', hwake, rfl⟩
        obtain ⟨-, rfl⟩ : _ ∧ rest () = task := by simpa [wake?] using hwake
        exact ih () w' s''
    case backoff ms =>
      rw [Task.advance]
      split
      · exact ih _ w s
      · split
        · exact ih _ w s
        · refine .intro _ ?_
          rintro later ⟨s', task, w', s'', hwake, rfl⟩
          -- however the wait ends, what follows is one of the answers to the question
          obtain ⟨wake, rfl⟩ : ∃ wake, rest wake = task := by
            simp only [wake?] at hwake
            split at hwake
            · exact ⟨_, Option.some.inj hwake⟩
            · split at hwake
              · exact ⟨_, Option.some.inj hwake⟩
              · cases hwake
          exact ih wake w' s''
    all_goals
      simp only [Task.advance]
      split
      · exact ih _ _ _
      · exact acc_of_wake? fun _ => rfl

end Parked

namespace Job

/-- A job that has come further than another one. -/
def Follows (later earlier : Job) : Prop :=
  ∃ (p : Processor) (s s' : Scene), p.Onward s earlier s' later

theorem acc_settled {work : Parked Outcome} (h : Acc Parked.Follows work) (j : Job) (since : Nat)
    (s : Scene) : Acc Follows (j.settled since work s) := by
  induction h generalizing j since s with
  | intro work _ ih =>
    refine .intro _ ?_
    rintro later ⟨p, s₁, s₂, honward⟩
    cases honward with
    | admitted hwaiting =>
      rw [isWaiting_settled] at hwaiting
      cases hwaiting
    | @resumed since' next rest _ hdue hwork =>
      -- it goes on with what was left of its work, and that has only so many waits
      cases hdue with
      | begins hphase => cases work <;> simp [settled] at hphase
      | @wakes parked _ hphase hwake =>
        have hparked : parked = work := by
          cases work <;> simp_all [settled]
        rw [hparked] at hwake
        exact ih next ⟨s₁, rest, _, s₁, hwake, by rw [hwork]⟩ _ _ _

/-- From a job that has a permit on there are only so many steps, since there are only so many from
every wait of its work on. -/
theorem acc_of_isWaiting {j : Job} (hadmitted : j.isWaiting = false) : Acc Follows j := by
  refine .intro _ ?_
  rintro later ⟨p, s, s', honward⟩
  cases honward with
  | admitted hwaiting =>
    rw [hadmitted] at hwaiting
    cases hwaiting
  | @resumed since work rest _ _ hwork =>
    have h := Parked.acc_advance rest (j.situation p.observers) s
    rw [hwork] at h
    exact acc_settled h j since s'

/-- A job comes further only so often. -/
theorem wellFounded_follows : WellFounded Follows := by
  refine ⟨fun j => .intro _ ?_⟩
  rintro later ⟨p, s, s', honward⟩
  cases honward with
  | admitted _ => exact acc_of_isWaiting (isWaiting_admitted _ _)
  | resumed _ _ => exact acc_of_isWaiting (isWaiting_settled _ _ _ _)

end Job

/-! ## Measures -/

/-- A list in which one element has gone on. -/
def GoesOn {α : Type} (r : α → α → Prop) (later earlier : List α) : Prop :=
  ∃ i a a', earlier[i]? = some a ∧ r a' a ∧ later = earlier.set i a'

theorem acc_cons {α : Type} {r : α → α → Prop} {a : α} {l : List α} (ha : Acc r a)
    (hl : Acc (GoesOn r) l) : Acc (GoesOn r) (a :: l) := by
  -- either the first element goes on, or one of the others, so both are needed to get smaller
  induction ha generalizing l with
  | intro a _ iha =>
    induction hl with
    | intro l hl ihl =>
      refine .intro _ ?_
      rintro later ⟨i, b, b', hi, hr, rfl⟩
      cases i with
      | zero =>
        obtain rfl := Option.some.inj hi
        exact iha b' hr (.intro l hl)
      | succ i => exact ihl _ ⟨i, b, b', hi, hr, rfl⟩

theorem wellFounded_goesOn {α : Type} {r : α → α → Prop} (h : WellFounded r) :
    WellFounded (GoesOn r) := by
  refine ⟨fun l => ?_⟩
  induction l with
  | nil =>
    refine .intro _ ?_
    rintro later ⟨i, a, a', hi, -, -⟩
    cases hi
  | cons a rest ih => exact acc_cons (h.apply a) ih

theorem sum_map_set {α : Type} (f : α → Nat) {l : List α} {i : Nat} {a : α} (h : l[i]? = some a)
    (a' : α) : ((l.set i a').map f).sum + f a = (l.map f).sum + f a' := by
  induction l generalizing i with
  | nil => cases h
  | cons b rest ih =>
    cases i with
    | zero =>
      obtain rfl := Option.some.inj h
      simp only [List.set_cons_zero, List.map_cons, List.sum_cons]
      omega
    | succ i =>
      have hrest := ih h
      simp only [List.set_cons_succ, List.map_cons, List.sum_cons]
      omega

/-- How far a worker is from its end. -/
def WorkerPhase.rank : WorkerPhase → Nat
  | .gone _ => 0
  | .idle => 1
  | .busy _ => 2

/-- How much news a worker has not heard, its end included. -/
def Worker.unheard (w : Worker) : Nat := w.closures.reads + if w.listening then 1 else 0

def PoolView.ranks (v : PoolView) : Nat := (v.phases.map WorkerPhase.rank).sum

def Pool.unheard (p : Pool) : Nat := (p.workers.toList.map Worker.unheard).sum

namespace Crew

/-- What stands on the streams. -/
def untaken (c : Crew) : Nat := (c.views.map fun v => v.stream.length).sum

def ranks (c : Crew) : Nat := (c.views.map PoolView.ranks).sum

def unheard (c : Crew) : Nat := (c.pools.map Pool.unheard).sum

/-- The steps that a crew takes by itself. -/
def Label.isOwn : Label → Bool
  | .arrive _ _ | .endStream _ | .channelClosed _ | .deafen _ | .dismiss _ => false
  | _ => true

/-- A crew that has taken a step by itself. -/
def Follows (later earlier : Crew) : Prop :=
  ∃ s s' l, l.isOwn = true ∧ earlier.step s l = some (s', later)

theorem untaken_set {c c' : Crew} {k : Nat} {v v' : PoolView} (hv : c.views[k]? = some v)
    (hviews : c'.views = c.views.set k v') :
    c'.untaken + v.stream.length = c.untaken + v'.stream.length := by
  unfold untaken
  rw [hviews]
  exact sum_map_set _ hv v'

theorem ranks_set {c c' : Crew} {k n : Nat} {v : PoolView} {phase phase' : WorkerPhase}
    (hv : c.views[k]? = some v) (hn : v.phases[n]? = some phase)
    (hviews : c'.views = c.views.set k (v.setPhase n phase')) :
    c'.ranks + phase.rank = c.ranks + phase'.rank := by
  have hranks := sum_map_set PoolView.ranks hv (v.setPhase n phase')
  have hphases := sum_map_set WorkerPhase.rank hn phase'
  unfold ranks
  rw [hviews]
  unfold PoolView.setPhase PoolView.ranks at *
  dsimp only at *
  omega

theorem unheard_setWorker {c : Crew} {k n : Nat} {p : Pool} {w : Worker}
    (hp : c.pools[k]? = some p) (hw : p.workers[n]? = some w) (w' : Worker) :
    (c.setWorker k n p w').unheard + w.unheard = c.unheard + w'.unheard := by
  have hpools := sum_map_set Pool.unheard hp { p with workers := p.workers.setIfInBounds n w' }
  have hworkers := sum_map_set Worker.unheard (l := p.workers.toList) (by simpa using hw) w'
  unfold unheard setWorker
  unfold Pool.unheard at *
  simp only [Array.toList_setIfInBounds] at hpools
  dsimp only
  omega

/-- A worker that reads news has less to read afterwards. -/
theorem unheard_heed {s s' : Scene} {c c' : Crew} {k n : Nat}
    (h : c.step s (.heed k n) = some (s', c')) : c'.unheard < c.unheard := by
  obtain ⟨p, hp, h⟩ := Option.bind_eq_some_iff.1 h
  obtain ⟨w, hw, h⟩ := Option.bind_eq_some_iff.1 h
  have hset (w' : Worker) (hw' : w'.unheard < w.unheard) :
      (c.setWorker k n p w').unheard < c.unheard := by
    have hsum := unheard_setWorker hp hw w'
    omega
  cases hphase : w.phase with
  | busy job => simp [hphase] at h
  | gone time => simp [hphase] at h
  | idle =>
    simp only [hphase, idleStep] at h
    split at h
    · next hlistening =>
      split at h
      · next signal closures htake =>
        obtain ⟨rfl, rfl⟩ := Prod.mk.inj (Option.some.inj h)
        have hreads := Backlog.reads_take? htake
        refine hset _ ?_
        unfold Worker.unheard
        dsimp only
        omega
      · split at h
        · obtain ⟨rfl, rfl⟩ := Prod.mk.inj (Option.some.inj h)
          refine hset _ ?_
          simp [Worker.unheard, hlistening]
        · cases h
    · cases h

/-- What gets smaller with every step: first what stands on the streams, then the work of the jobs,
then how far the workers are from their ends, and then the news. -/
def measure (c : Crew) : Nat × List Job × Nat × Nat :=
  (c.untaken, c.processor.jobs, c.ranks, c.unheard)

/-- The order of the measures, by the first of their parts that differ. -/
def Smaller : Nat × List Job × Nat × Nat → Nat × List Job × Nat × Nat → Prop :=
  Prod.Lex (· < ·) (Prod.Lex (GoesOn Job.Follows)
    (Prod.Lex (· < ·) (· < ·)))

theorem wellFounded_smaller : WellFounded Smaller :=
  have hlt : WellFounded fun m n : Nat => m < n := Nat.lt_wfRel.wf
  hlt.prod_lex ((wellFounded_goesOn Job.wellFounded_follows).prod_lex (hlt.prod_lex hlt))

theorem Follows.smaller {c c' : Crew} (h : Follows c' c) : Smaller c'.measure c.measure := by
  obtain ⟨s, s', l, hl, hstep⟩ := h
  -- a job runs on, and the streams stay as they are
  have hruns (hviews : c'.views = c.views)
      (hran : ∃ i j j', c.processor.Ran s c'.processor s' i j j') :
      Smaller c'.measure c.measure := by
    obtain ⟨i, j, j', hfound, hjobs, honward⟩ := hran
    unfold measure untaken
    rw [hviews]
    exact .right _ (.left _ _ ⟨i, j, j', hfound, ⟨_, _, _, honward⟩, hjobs⟩)
  -- a worker comes closer to its end, and streams and jobs stay as they are
  have hworks {k n : Nat} {v : PoolView} {phase phase' : WorkerPhase}
      (hproc : c'.processor = c.processor) (hv : c.views[k]? = some v)
      (hn : v.phases[n]? = some phase) (hviews : c'.views = c.views.set k (v.setPhase n phase'))
      (hrank : phase'.rank < phase.rank) : Smaller c'.measure c.measure := by
    have huntaken : c'.untaken = c.untaken := by
      simpa [PoolView.setPhase] using untaken_set hv hviews
    have hranks := ranks_set hv hn hviews
    unfold measure
    rw [hproc, huntaken]
    exact .right _ (.right _ (.left _ _ (by omega)))
  cases stepped_of_step hstep with
  | grant hrun hviews => exact hruns hviews (Processor.ran_of_grant? hrun)
  | resume hrun hviews => exact hruns hviews ⟨_, Processor.ran_of_resume? hrun⟩
  | news hnews hproc hviews =>
    cases l with
    | heed k n =>
      unfold measure untaken ranks
      rw [hproc, hviews]
      exact .right _ (.right _ (.right _ (unheard_heed hstep)))
    | channelClosed k => cases hl
    | deafen k => cases hl
    | _ => cases hnews
  | dismiss => cases hl
  | arrive => cases hl
  | endStream => cases hl
  | leave hv hidle _ hproc hviews => exact hworks hproc hv hidle hviews Nat.zero_lt_one
  | finish hv hidle _ _ hproc hviews => exact hworks hproc hv hidle hviews Nat.zero_lt_one
  | rest hv hbusy _ hproc hviews => exact hworks hproc hv hbusy hviews Nat.one_lt_two
  -- a pull may add a job and send a worker back to work, but it shortens the stream
  | pullFault hv _ hstream _ hviews =>
    have huntaken := untaken_set hv hviews
    refine .left _ _ (show c'.untaken < c.untaken from ?_)
    simp only [PoolView.rest, hstream, List.length_cons, List.tail_cons] at huntaken
    omega
  | pull hv _ hstream _ hviews =>
    have huntaken := untaken_set hv hviews
    refine .left _ _ (show c'.untaken < c.untaken from ?_)
    simp only [PoolView.setPhase, PoolView.rest, hstream, List.length_cons, List.tail_cons]
      at huntaken
    omega

/-- Left to itself a crew takes only so many steps, whatever the scenes in which it takes them. -/
theorem wellFounded_follows : WellFounded Follows :=
  Subrelation.wf Follows.smaller (InvImage.wf measure wellFounded_smaller)

/-! ## Steps that can be taken -/

variable {s : Scene} {c : Crew} {k n : Nat} {v : PoolView}

/-- The worker behind a phase. -/
theorem exists_worker (hv : c.views[k]? = some v) {phase : WorkerPhase}
    (hn : v.phases[n]? = some phase) :
    ∃ p w, p.view = v ∧ w.phase = phase ∧ c.pools[k]? = some p ∧ p.workers[n]? = some w := by
  rw [getElem?_views, Option.map_eq_some_iff] at hv
  obtain ⟨p, hp, rfl⟩ := hv
  have hn' : (p.workers.toList.map Worker.phase)[n]? = some phase := hn
  rw [List.getElem?_map, Option.map_eq_some_iff] at hn'
  obtain ⟨w, hw, hphase⟩ := hn'
  exact ⟨p, w, rfl, hphase, hp, by simpa using hw⟩

theorem step_leave_ne_none (hv : c.views[k]? = some v) (hn : v.phases[n]? = some .idle)
    (hcancelled : s.isCancelled v.token = true) : c.step s (.leave k n) ≠ none := by
  obtain ⟨p, w, rfl, hphase, hp, hw⟩ := exists_worker hv hn
  have htoken : s.isCancelled p.token = true := hcancelled
  simp [step, workerStep, idleStep, hp, hw, hphase, htoken]

theorem step_pull_ne_none (hv : c.views[k]? = some v) (hn : v.phases[n]? = some .idle)
    (hstream : v.stream ≠ []) : c.step s (.pull k n) ≠ none := by
  obtain ⟨p, w, rfl, hphase, hp, hw⟩ := exists_worker hv hn
  have hitems : p.stream ≠ [] := hstream
  simp only [step, workerStep, hp, hw, hphase, idleStep, Option.bind_eq_bind, Option.bind_some]
  split <;> simp_all

theorem step_finish_ne_none (hv : c.views[k]? = some v) (hn : v.phases[n]? = some .idle)
    (hstream : v.stream = []) (hended : v.streaming = false) : c.step s (.finish k n) ≠ none := by
  obtain ⟨p, w, rfl, hphase, hp, hw⟩ := exists_worker hv hn
  have hempty : p.stream = [] := hstream
  have hclosed : p.streaming = false := hended
  simp [step, workerStep, idleStep, hp, hw, hphase, hempty, hclosed]

theorem step_rest_ne_none {job : Nat} (hv : c.views[k]? = some v)
    (hn : v.phases[n]? = some (.busy job)) (hover : c.processor.isOver job = true) :
    c.step s (.rest k n) ≠ none := by
  obtain ⟨p, w, rfl, hphase, hp, hw⟩ := exists_worker hv hn
  simp [step, workerStep, hp, hw, hphase, hover]

/-- A step of the crew that can be taken is one that it tries. -/
theorem mem_labels {l : Label} (hl : l.isOwn = true) (h : c.step s l ≠ none) : l ∈ c.labels := by
  have hworker {k n : Nat} (hmem : l ∈ workerLabels k n) (hstep : c.workerStep s k n l ≠ none) :
      l ∈ c.labels := by
    unfold workerStep at hstep
    cases hp : c.pools[k]? with
    | none => simp [hp] at hstep
    | some p =>
      cases hw : p.workers[n]? with
      | none => simp [hp, hw] at hstep
      | some w =>
        have hn : n < p.workers.size := (Array.getElem?_eq_some_iff.1 hw).1
        exact List.mem_append_left _ (List.mem_append_right _ (List.mem_flatMap.2
          ⟨(p, k), List.mem_zipIdx_iff_getElem?.2 hp, List.mem_flatMap.2
            ⟨n, List.mem_range.2 hn, hmem⟩⟩))
  cases l with
  | grant => exact List.mem_append_right _ (List.mem_singleton.2 rfl)
  | resume job =>
    refine List.mem_append_left _ (List.mem_append_left _ (List.mem_map.2 ⟨job, ?_, rfl⟩))
    rw [List.mem_range]
    by_contra hge
    refine h ?_
    simp [step, Processor.resume?, List.getElem?_eq_none (Nat.le_of_not_lt hge)]
  | heed k n | pull k n | leave k n | finish k n | rest k n =>
    exact hworker (by simp [workerLabels]) h
  | arrive | endStream | channelClosed | deafen | dismiss => cases hl

end Crew

/-! ## At rest -/

/-- Whether a job waits for an answer that never comes. -/
def Job.isStranded (j : Job) : Bool :=
  match j.phase with
  | .running _ .stranded => true
  | _ => false

theorem Processor.exists_resume?_of_due? {p : Processor} {s : Scene} {i : Nat} {j : Job}
    (hj : p.jobs[i]? = some j) (hdue : p.due? s j ≠ none) : ∃ r, p.resume? s i = some r := by
  obtain ⟨due, hdue⟩ := Option.ne_none_iff_exists'.1 hdue
  unfold resume?
  rw [hj, Option.bind_eq_bind, Option.bind_some, hdue, Option.bind_eq_bind, Option.bind_some]
  exact ⟨_, rfl⟩

/-- A job that has a permit and is not stranded begins or goes on as time passes. -/
theorem Processor.exists_resume? {p : Processor} {i : Nat} {j : Job} (hj : p.jobs[i]? = some j)
    (hrunning : j.isRunning = true) (hparked : j.IsParked) (hstranded : j.isStranded = false)
    (s : Scene) : ∃ time r, p.resume? (s.notBefore time) i = some r := by
  cases hphase : j.phase with
  | waiting => simp [Job.isRunning, hphase] at hrunning
  | ended _ _ _ => simp [Job.isRunning, hphase] at hrunning
  | admitted since => exact ⟨0, exists_resume?_of_due? hj (by simp [due?, hphase])⟩
  | running since work =>
    have hresume (time : Nat) (hwake : work.wake? (s.notBefore time) ≠ none) :
        ∃ r, p.resume? (s.notBefore time) i = some r :=
      exists_resume?_of_due? hj (by simpa [due?, hphase] using hwake)
    -- what waits for the clock has waited long enough at the time for which it waits
    cases work with
    | ended result => exact absurd hphase (hparked since result)
    | stranded => simp [Job.isStranded, hphase] at hstranded
    | sleeping wakeAt rest =>
      exact ⟨wakeAt, hresume wakeAt (by simp [Parked.wake?, Scene.notBefore])⟩
    | backingOff started wakeAt token rest =>
      exact ⟨wakeAt, hresume wakeAt (by simp [Parked.wake?, Scene.notBefore])⟩

namespace Crew

/-- No step can be taken, now or at any later time. -/
def AtRest (s : Scene) (c : Crew) : Prop :=
  ∀ time l, l.isOwn = true → c.step (s.notBefore time) l = none

variable {s : Scene} {c : Crew}

/-- At rest all jobs are over, unless one of them is stranded. -/
theorem AtRest.isOver (h : AtRest s c) (hbalanced : c.processor.Balanced)
    (hstranded : ∀ j ∈ c.processor.jobs, j.isStranded = false) :
    ∀ j ∈ c.processor.jobs, j.isOver = true := by
  -- a job that is running could go on, sooner or later
  have hidle : ∀ j ∈ c.processor.jobs, j.isRunning = false := by
    intro j hj
    by_contra hrunning
    obtain ⟨i, hi⟩ := List.getElem?_of_mem hj
    obtain ⟨time, r, hresume⟩ := Processor.exists_resume? hi (by simpa using hrunning)
      (hbalanced.parked j hj) (hstranded j hj) s
    have hnone := h time (.resume i) rfl
    simp [step, hresume] at hnone
  -- all permits are free, so a job that waits could be admitted
  have hfree : c.processor.free ≠ 0 := by
    have hnone : c.processor.inFlight = 0 :=
      List.countP_eq_zero.2 fun j hj => by simp [hidle j hj]
    have hpermits := hbalanced.permits
    have hpos : 0 < c.processor.permits := by
      unfold Processor.permits ConsumerSettings.permits
      omega
    omega
  intro j hj
  have hadmitted : j.isWaiting = false := by
    by_contra hwaiting
    obtain ⟨s', p', hgrant⟩ := Processor.exists_grant? hfree ⟨j, hj, by simpa using hwaiting⟩
      (s.notBefore 0)
    have hnone := h 0 .grant rfl
    simp [step, hgrant] at hnone
  have hrunning := j.isRunning_eq
  rw [hidle j hj, hadmitted] at hrunning
  simpa using hrunning

/-- At rest the workers of a pool are gone whose stream has ended or whose token is cancelled,
unless a job is stranded. -/
theorem AtRest.isDrained (h : AtRest s c) {k : Nat} {v : PoolView} (hv : c.views[k]? = some v)
    (hover : ∀ (n i : Nat), v.phases[n]? = some (.busy i) → c.processor.isOver i = true)
    (hleave : v.streaming = false ∨ s.isCancelled v.token = true) :
    v.phases.all (·.isGone) = true := by
  rw [List.all_eq_true]
  intro phase hmem
  obtain ⟨n, hn⟩ := List.getElem?_of_mem hmem
  cases phase with
  | gone time => rfl
  | busy job => exact absurd (h 0 (.rest k n) rfl) (step_rest_ne_none hv hn (hover n job hn))
  | idle =>
    rcases hleave with hended | hcancelled
    · by_cases hstream : v.stream = []
      · exact absurd (h 0 (.finish k n) rfl) (step_finish_ne_none hv hn hstream hended)
      · exact absurd (h 0 (.pull k n) rfl) (step_pull_ne_none hv hn hstream)
    · have hnow : (s.notBefore 0).isCancelled v.token = true := by
        simpa [Scene.notBefore, Scene.isCancelled] using hcancelled
      exact absurd (h 0 (.leave k n) rfl) (step_leave_ne_none hv hn hnow)

end Crew

end MessageBus
