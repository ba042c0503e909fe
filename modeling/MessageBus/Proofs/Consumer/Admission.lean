import Mathlib.Tactic.ByContra
import MessageBus.Consumer.Processor

/-!
# How deliveries are admitted

The histories of a processor are lists of moves: anybody may hand a delivery over at any time, a job
may be admitted, begin or go on in any scene, and handlers and observers may be added. Between its
admission and its beginning anything may happen to a job's surroundings. `admission_law` says
what holds after every history: no more jobs have a permit than there are permits, jobs are admitted
in the order in which they came, and a permit comes back from every job that is over.
-/

set_option autoImplicit false

namespace MessageBus

namespace Job

/-- Whether a job is over. -/
def isOver (j : Job) : Bool := j.result?.isSome

/-- Whether a job has begun: it had a permit, and has run up to its first wait at least. -/
def hasBegun (j : Job) : Bool :=
  match j.phase with
  | .waiting | .admitted _ => false
  | _ => true

/-- What is left to do of a job that has begun. -/
def work? (j : Job) : Option (Parked Outcome) :=
  match j.phase with
  | .running _ work => some work
  | _ => none

theorem isRunning_eq (j : Job) : j.isRunning = (!j.isWaiting && !j.isOver) := by
  unfold isRunning isWaiting isOver result?
  cases j.phase <;> rfl

/-- A job that has begun has a permit. -/
theorem isRunning_of_work? {j : Job} (h : j.work?.isSome = true) : j.isRunning = true := by
  unfold work? at h
  unfold isRunning
  cases hphase : j.phase <;> simp_all

variable (j : Job) (since : Nat) (work : Parked Outcome) (s : Scene)

@[simp] theorem admitted_delivery : (j.admitted since).delivery = j.delivery := rfl

@[simp] theorem admitted_acknowledger : (j.admitted since).acknowledger = j.acknowledger := rfl

@[simp] theorem isWaiting_admitted : (j.admitted since).isWaiting = false := rfl

@[simp] theorem isRunning_admitted : (j.admitted since).isRunning = true := rfl

@[simp] theorem settled_delivery : (j.settled since work s).delivery = j.delivery := by
  cases work <;> rfl

@[simp] theorem settled_acknowledger : (j.settled since work s).acknowledger = j.acknowledger := by
  cases work <;> rfl

@[simp] theorem isWaiting_settled : (j.settled since work s).isWaiting = false := by
  cases work <;> rfl

/-- Whether a job that is running has something left to do. -/
def IsParked (j : Job) : Prop := ∀ since result, j.phase ≠ .running since (.ended result)

theorem isParked_settled : (j.settled since work s).IsParked := by
  intro since' result
  cases work <;> simp [settled]

theorem isParked_admitted : (j.admitted since).IsParked := by
  intro since' result
  simp [admitted]

end Job

namespace Processor

/-! ## What a step does to the jobs -/

@[simp] theorem acquire_jobs (p : Processor) : p.acquire.jobs = p.jobs := rfl

@[simp] theorem acquire_free (p : Processor) : p.acquire.free = p.free - 1 := rfl

@[simp] theorem advanced_jobs (p : Processor) (i : Nat) (j : Job) :
    (p.advanced i j).jobs = p.jobs.set i j := rfl

@[simp] theorem advanced_free (p : Processor) (i : Nat) (j : Job) :
    (p.advanced i j).free = if j.isRunning then p.free else p.free + 1 := rfl

@[simp] theorem request_jobs (p : Processor) (delivery : Delivery) (a : Acknowledger) (t : Token) :
    (p.request delivery a t).1.jobs = p.jobs ++ [⟨delivery, a, t, .waiting⟩] := rfl

@[simp] theorem request_free (p : Processor) (delivery : Delivery) (a : Acknowledger) (t : Token) :
    (p.request delivery a t).1.free = p.free := rfl

/-- The job that is admitted is the first that waits; there is a free permit, and it takes that. -/
theorem grant?_eq_some {p p' : Processor} {s s' : Scene} (h : p.grant? s = some (s', p')) :
    ∃ i j, p.free ≠ 0 ∧ p.jobs[i]? = some j ∧ j.isWaiting = true ∧
      (∀ k < i, ∀ j', p.jobs[k]? = some j' → j'.isWaiting = false) ∧
      s' = s ∧ p' = p.acquire.advanced i (j.admitted s.now) := by
  unfold grant? next? at h
  by_cases hfree : p.free = 0
  · simp [hfree] at h
  rw [if_neg hfree] at h
  cases hi : p.jobs.findIdx? Job.isWaiting with
  | none => simp [hi] at h
  | some i =>
    obtain ⟨hlt, hwaiting, hbefore⟩ := List.findIdx?_eq_some_iff_getElem.1 hi
    have hj : p.jobs[i]? = some p.jobs[i] := List.getElem?_eq_getElem hlt
    rw [hi, Option.bind_eq_bind, Option.bind_some, hj, Option.bind_eq_bind, Option.bind_some] at h
    obtain ⟨rfl, rfl⟩ := Prod.mk.inj (Option.some.inj h)
    refine ⟨i, p.jobs[i], hfree, hj, hwaiting, ?_, rfl, rfl⟩
    intro k hk j' hj'
    obtain ⟨hk', rfl⟩ := List.getElem?_eq_some_iff.1 hj'
    simpa using hbefore k hk

/-- What a job that goes on has left to do: all of its work if it has not begun, and else what comes
after the wait that is over. -/
inductive Due (p : Processor) (s : Scene) (j : Job) : Nat → Task Outcome → Prop where
  | begins {since : Nat} (hphase : j.phase = .admitted since) : Due p s j since (p.work j)
  | wakes {since : Nat} {parked : Parked Outcome} {rest : Task Outcome}
      (hphase : j.phase = .running since parked) (hwake : parked.wake? s = some rest) :
      Due p s j since rest

theorem due_of_due? {p : Processor} {s : Scene} {j : Job} {since : Nat} {rest : Task Outcome}
    (h : p.due? s j = some (since, rest)) : p.Due s j since rest := by
  unfold due? at h
  split at h
  · next since' hphase =>
    obtain ⟨rfl, rfl⟩ := Prod.mk.inj (Option.some.inj h)
    exact .begins hphase
  · next since' parked hphase =>
    obtain ⟨rest', hwake, hrest⟩ := Option.map_eq_some_iff.1 h
    obtain ⟨rfl, rfl⟩ := Prod.mk.inj hrest
    exact .wakes hphase hwake
  · cases h

/-- A job that begins or goes on has a permit. -/
theorem Due.isRunning {p : Processor} {s : Scene} {j : Job} {since : Nat} {rest : Task Outcome}
    (h : p.Due s j since rest) : j.isRunning = true := by
  unfold Job.isRunning
  cases h with
  | begins hphase | wakes hphase _ => rw [hphase]

theorem Due.isWaiting {p : Processor} {s : Scene} {j : Job} {since : Nat} {rest : Task Outcome}
    (h : p.Due s j since rest) : j.isWaiting = false := by
  unfold Job.isWaiting
  cases h with
  | begins hphase | wakes hphase _ => rw [hphase]

theorem resume?_eq_some {p p' : Processor} {s s' : Scene} {i : Nat}
    (h : p.resume? s i = some (s', p')) :
    ∃ j since rest work, p.jobs[i]? = some j ∧ p.Due s j since rest ∧
      rest.advance (j.situation p.observers) s = (work, s') ∧
      p' = p.advanced i (j.settled since work s') := by
  unfold resume? at h
  cases hj : p.jobs[i]? with
  | none => simp [hj] at h
  | some j =>
    rw [hj, Option.bind_eq_bind, Option.bind_some] at h
    cases hdue : p.due? s j with
    | none => simp [hdue] at h
    | some due =>
      obtain ⟨since, rest⟩ := due
      rw [hdue, Option.bind_eq_bind, Option.bind_some] at h
      dsimp only at h
      generalize hrun : rest.advance (j.situation p.observers) s = r at h
      obtain ⟨work, s₁⟩ := r
      obtain ⟨rfl, rfl⟩ := Prod.mk.inj (Option.some.inj h)
      exact ⟨j, since, rest, work, rfl, due_of_due? hdue, hrun, rfl⟩

/-- A job comes further: it gets its permit, or it does what it has left to do up to the next
wait. -/
inductive Onward (p : Processor) (s : Scene) (j : Job) : Scene → Job → Prop where
  | admitted (hwaiting : j.isWaiting = true) : Onward p s j s (j.admitted s.now)
  | resumed {since : Nat} {work : Parked Outcome} {rest : Task Outcome} {s' : Scene}
      (hdue : p.Due s j since rest)
      (hwork : rest.advance (j.situation p.observers) s = (work, s')) :
      Onward p s j s' (j.settled since work s')

namespace Onward

variable {p : Processor} {s s' : Scene} {j j' : Job}

theorem delivery (h : p.Onward s j s' j') : j'.delivery = j.delivery := by
  cases h <;> simp

theorem acknowledger (h : p.Onward s j s' j') : j'.acknowledger = j.acknowledger := by
  cases h <;> simp

theorem isParked (h : p.Onward s j s' j') : j'.IsParked := by
  cases h with
  | admitted _ => exact Job.isParked_admitted _ _
  | resumed _ _ => exact Job.isParked_settled _ _ _ _

/-- A job that is over comes no further. -/
theorem isOver (h : p.Onward s j s' j') : j.isOver = false := by
  cases h with
  | admitted hwaiting =>
    unfold Job.isWaiting at hwaiting
    unfold Job.isOver Job.result?
    cases hphase : j.phase <;> simp_all
  | resumed hdue _ =>
    have hrunning := hdue.isRunning
    rw [j.isRunning_eq] at hrunning
    simp_all

end Onward

/-- Job number `i` has run on, from `s` to `s'`: it was `j` and is now `j'`. -/
structure Ran (p : Processor) (s : Scene) (p' : Processor) (s' : Scene) (i : Nat) (j j' : Job) :
    Prop where
  found : p.jobs[i]? = some j
  jobs : p'.jobs = p.jobs.set i j'
  onward : p.Onward s j s' j'

section

variable {p p' : Processor} {s s' : Scene} {i : Nat} {j j' : Job}

theorem Ran.isParked (h : p.Ran s p' s' i j j') (hparked : ∀ j ∈ p.jobs, j.IsParked) :
    ∀ j ∈ p'.jobs, j.IsParked := by
  intro k hk
  rw [h.jobs] at hk
  rcases List.mem_or_eq_of_mem_set hk with hk | rfl
  · exact hparked k hk
  · exact h.onward.isParked

/-- Only the job that has run on is another one. -/
theorem Ran.getElem? (h : p.Ran s p' s' i j j') (k : Nat) :
    (i = k ∧ p.jobs[k]? = some j ∧ p'.jobs[k]? = some j') ∨ p'.jobs[k]? = p.jobs[k]? := by
  rw [h.jobs]
  by_cases hk : i = k
  · subst hk
    rw [List.getElem?_set_self (List.getElem?_eq_some_iff.1 h.found).1]
    exact .inl ⟨rfl, h.found, rfl⟩
  · exact .inr (List.getElem?_set_ne hk)

theorem ran_of_grant? (h : p.grant? s = some (s', p')) : ∃ i j j', p.Ran s p' s' i j j' := by
  obtain ⟨i, j, -, hj, hwaiting, -, rfl, rfl⟩ := grant?_eq_some h
  exact ⟨i, j, _, hj, rfl, .admitted hwaiting⟩

theorem ran_of_resume? (h : p.resume? s i = some (s', p')) : ∃ j j', p.Ran s p' s' i j j' := by
  obtain ⟨j, since, rest, work, hj, hdue, hwork, rfl⟩ := resume?_eq_some h
  exact ⟨j, _, hj, rfl, .resumed hdue hwork⟩

end

/-! ## Histories -/

/-- What happens to a processor. -/
inductive Move where
  /-- Somebody hands over a delivery. -/
  | request (delivery : Delivery) (acknowledger : Acknowledger) (token : Token)
  /-- The job that is first in line gets a permit. -/
  | grant (s : Scene)
  /-- A job begins, or goes on after a wait. -/
  | resume (s : Scene) (job : Nat)
  | connectHandler (h : Handler)
  | addObserver (name : String)

/-- The processor after a move; one that cannot be made changes nothing. -/
def move (p : Processor) : Move → Processor
  | .request delivery acknowledger token => (p.request delivery acknowledger token).1
  | .grant s => ((p.grant? s).map Prod.snd).getD p
  | .resume s job => ((p.resume? s job).map Prod.snd).getD p
  | .connectHandler h => p.connectHandler h
  | .addObserver name => p.addObserver name

/-- The processor after some moves. -/
def moves (p : Processor) (ms : List Move) : Processor := ms.foldl move p

/-- Where each event is to a processor a history of its own, so are all of them together. -/
theorem exists_moves_foldl {σ ε : Type} (processor : σ → Processor) {next : σ → ε → σ}
    (hnext : ∀ a e, ∃ ms, processor (next a e) = (processor a).moves ms) (a : σ) (es : List ε) :
    ∃ ms, processor (es.foldl next a) = (processor a).moves ms := by
  refine List.foldlRecOn (motive := fun a' => ∃ ms, processor a' = (processor a).moves ms) es next
    ⟨[], rfl⟩ ?_
  rintro a' ⟨ms, hms⟩ e -
  obtain ⟨ms', hms'⟩ := hnext a' e
  refine ⟨ms ++ ms', ?_⟩
  calc processor (next a' e)
      = ((processor a).moves ms).moves ms' := by rw [hms', hms]
    _ = (processor a).moves (ms ++ ms') := List.foldl_append.symm

/-- What holds after a move: it holds if nothing happened, and of all that a move can lead to. -/
theorem move_cases {P : Processor → Prop} {p : Processor} (m : Move) (hsame : P p)
    (hrequest : ∀ delivery acknowledger token, P (p.request delivery acknowledger token).1)
    (hconnect : ∀ h, P (p.connectHandler h)) (hobserve : ∀ name, P (p.addObserver name))
    (hgrant : ∀ s s' p', p.grant? s = some (s', p') → P p')
    (hresume : ∀ s s' i p', p.resume? s i = some (s', p') → P p') : P (p.move m) := by
  cases m with
  | request delivery acknowledger token => exact hrequest _ _ _
  | connectHandler h => exact hconnect h
  | addObserver name => exact hobserve name
  | grant s =>
    show P (((p.grant? s).map Prod.snd).getD p)
    cases h : p.grant? s with
    | none => exact hsame
    | some r => exact hgrant s r.1 r.2 h
  | resume s i =>
    show P (((p.resume? s i).map Prod.snd).getD p)
    cases h : p.resume? s i with
    | none => exact hsame
    | some r => exact hresume s r.1 i r.2 h

/-- What holds of a processor and is kept by all of its moves: every permit is free or with a job,
no job is admitted before one that came earlier, and none that is running has nothing left to do. -/
structure Balanced (p : Processor) : Prop where
  permits : p.free + p.inFlight = p.permits
  order : ∀ (i k : Nat) (j j' : Job), i < k → p.jobs[i]? = some j → p.jobs[k]? = some j' →
    j.isWaiting = true → j'.isWaiting = true
  parked : ∀ j ∈ p.jobs, j.IsParked

theorem balanced_ofSettings (settings : ConsumerSettings) (registry : Registry)
    (observers : List String) : Balanced (ofSettings settings registry observers) where
  permits := rfl
  order := by
    intro i k j j' _ hj
    cases hj
  parked := by
    intro j hj
    cases hj

theorem Balanced.request {p : Processor} (h : Balanced p) (delivery : Delivery) (a : Acknowledger)
    (t : Token) : Balanced (p.request delivery a t).1 where
  permits := by
    have hfly : (p.request delivery a t).1.inFlight = p.inFlight := by
      simp [inFlight, Job.isRunning]
    rw [hfly]
    exact h.permits
  order := by
    intro i k j j' hik hj hj' hwaiting
    rw [request_jobs, List.getElem?_append] at hj hj'
    split at hj'
    · have hi : i < p.jobs.length := by omega
      rw [if_pos hi] at hj
      exact h.order i k j j' hik hj hj' hwaiting
    · obtain ⟨-, rfl⟩ := List.getElem?_eq_some_iff.1 hj'
      simp [Job.isWaiting]
  parked := by
    intro j hj
    rw [request_jobs, List.mem_append, List.mem_singleton] at hj
    rcases hj with hj | rfl
    · exact h.parked j hj
    · intro since result hphase
      cases hphase

/-- A job that runs on keeps the permit it has, or gives it back when it is over; so the permits are
one more than before, unless it had one already. -/
theorem permits_advanced {p : Processor} {i : Nat} {j : Job} (hj : p.jobs[i]? = some j) (j' : Job) :
    (p.advanced i j').free + (p.advanced i j').inFlight + (if j.isRunning then 1 else 0) =
      p.free + p.inFlight + 1 := by
  obtain ⟨hlt, rfl⟩ := List.getElem?_eq_some_iff.1 hj
  -- a job that is running is counted, so the count can do without it
  have hpos : p.jobs[i].isRunning = true → 0 < p.jobs.countP Job.isRunning :=
    fun h => List.countP_pos_iff.2 ⟨_, List.getElem_mem hlt, h⟩
  show (if j'.isRunning then p.free else p.free + 1) + (p.jobs.set i j').countP Job.isRunning + _ =
    p.free + p.jobs.countP Job.isRunning + 1
  rw [List.countP_set hlt]
  cases h : p.jobs[i].isRunning with
  | false => cases j'.isRunning <;> simp <;> omega
  | true =>
    have hpos := hpos h
    cases j'.isRunning <;> simp <;> omega

theorem Balanced.grant {p p' : Processor} {s s' : Scene} (h : Balanced p)
    (hg : p.grant? s = some (s', p')) : Balanced p' := by
  obtain ⟨_, _, _, hran⟩ := ran_of_grant? hg
  have hparked := hran.isParked h.parked
  obtain ⟨i, j, hfree, hj, hwaiting, hbefore, -, rfl⟩ := grant?_eq_some hg
  have hidle : j.isRunning = false := by rw [j.isRunning_eq, hwaiting]; rfl
  refine ⟨?_, ?_, hparked⟩
  · -- one permit is taken, and the job has it
    have hcount := permits_advanced (p := p.acquire) hj (j.admitted s.now)
    have hpermits : p.free + p.inFlight = p.permits := h.permits
    have hsame : p.acquire.inFlight = p.inFlight := rfl
    rw [hidle, if_neg (by decide), acquire_free, hsame] at hcount
    show _ = p.permits
    omega
  · intro k l j₁ j₂ hkl h₁ h₂ hw
    rw [advanced_jobs, acquire_jobs, List.getElem?_set] at h₁ h₂
    split at h₁
    · split at h₁
      · cases h₁
        simp at hw
      · cases h₁
    · next hik =>
      -- a job that still waits stands behind the one that was admitted
      have hlt : i < k := by
        rcases Nat.lt_trichotomy i k with hlt | heq | hgt
        · exact hlt
        · exact absurd heq hik
        · rw [hbefore k hgt j₁ h₁] at hw
          cases hw
      rw [if_neg (by omega)] at h₂
      exact h.order k l j₁ j₂ hkl h₁ h₂ hw

theorem Balanced.resume {p p' : Processor} {s s' : Scene} {i : Nat} (h : Balanced p)
    (hr : p.resume? s i = some (s', p')) : Balanced p' := by
  obtain ⟨_, _, hran⟩ := ran_of_resume? hr
  have hparked := hran.isParked h.parked
  obtain ⟨j, since, rest, work, hj, hdue, -, rfl⟩ := resume?_eq_some hr
  refine ⟨?_, ?_, hparked⟩
  · -- the job had a permit, and either it still has it or it is free
    have hcount := permits_advanced hj (j.settled since work s')
    have hpermits : p.free + p.inFlight = p.permits := h.permits
    rw [hdue.isRunning, if_pos rfl] at hcount
    show _ = p.permits
    omega
  · intro k l j₁ j₂ hkl h₁ h₂ hw
    rw [advanced_jobs, List.getElem?_set] at h₁ h₂
    split at h₁
    · split at h₁
      · cases h₁
        simp at hw
      · cases h₁
    · split at h₂
      · next hil =>
        -- the job that goes on is admitted, and so is every job before it
        subst hil
        have hwait := h.order k i j₁ j hkl h₁ hj hw
        rw [hdue.isWaiting] at hwait
        cases hwait
      · exact h.order k l j₁ j₂ hkl h₁ h₂ hw

theorem Balanced.move {p : Processor} (h : Balanced p) (m : Move) : Balanced (p.move m) :=
  move_cases m h (fun _ _ _ => h.request _ _ _) (fun _ => ⟨h.permits, h.order, h.parked⟩)
    (fun _ => ⟨h.permits, h.order, h.parked⟩) (fun _ _ _ hg => h.grant hg)
    (fun _ _ _ _ hr => h.resume hr)

theorem Balanced.moves {p : Processor} (h : Balanced p) (ms : List Move) :
    Balanced (p.moves ms) :=
  List.foldlRecOn (motive := Balanced) ms Processor.move h fun _ h m _ => h.move m

/-- Two processors of the same settings, with the same registry and names. -/
structure Alike (p p' : Processor) : Prop where
  settings : p'.settings = p.settings
  registry : p'.registry = p.registry
  names : p'.names = p.names

theorem alike_refl (p : Processor) : Alike p p := ⟨rfl, rfl, rfl⟩

theorem alike_move (p : Processor) (m : Move) : Alike p (p.move m) := by
  refine move_cases m (alike_refl p) (fun _ _ _ => ⟨rfl, rfl, rfl⟩) (fun _ => ⟨rfl, rfl, rfl⟩)
    (fun _ => ⟨rfl, rfl, rfl⟩) ?_ ?_
  · intro s s' p' hg
    obtain ⟨i, j, -, -, -, -, -, rfl⟩ := grant?_eq_some hg
    exact ⟨rfl, rfl, rfl⟩
  · intro s s' i p' hr
    obtain ⟨j, since, rest, work, -, -, -, rfl⟩ := resume?_eq_some hr
    exact ⟨rfl, rfl, rfl⟩

theorem Alike.trans {p p' p'' : Processor} (h : Alike p p') (h' : Alike p' p'') : Alike p p'' :=
  ⟨h'.settings.trans h.settings, h'.registry.trans h.registry, h'.names.trans h.names⟩

theorem alike_moves (p : Processor) (ms : List Move) : Alike p (p.moves ms) :=
  List.foldlRecOn (motive := Alike p) ms move (alike_refl p) fun p' h m _ =>
    h.trans (p'.alike_move m)

theorem moves_settings (p : Processor) (ms : List Move) : (p.moves ms).settings = p.settings :=
  (p.alike_moves ms).settings

/-! ## What moves leave alone -/

/-- A job that is over stays as it is. -/
theorem Ran.getElem?_of_isOver {p p' : Processor} {s s' : Scene} {i k : Nat} {j j' ended : Job}
    (h : p.Ran s p' s' i j j') (hk : p.jobs[k]? = some ended) (hover : ended.isOver = true) :
    p'.jobs[k]? = some ended := by
  rcases h.getElem? k with ⟨-, hfound, -⟩ | hsame
  · obtain rfl := Option.some.inj (hk.symm.trans hfound)
    rw [h.onward.isOver] at hover
    cases hover
  · rw [hsame, hk]

theorem getElem?_move_of_isOver {p : Processor} {k : Nat} {ended : Job}
    (hk : p.jobs[k]? = some ended) (hover : ended.isOver = true) (m : Move) :
    (p.move m).jobs[k]? = some ended := by
  refine move_cases (P := fun p' => p'.jobs[k]? = some ended) m hk ?_ (fun _ => hk) (fun _ => hk)
    ?_ ?_
  · intro delivery acknowledger token
    rw [request_jobs, List.getElem?_append_left (List.getElem?_eq_some_iff.1 hk).1, hk]
  · intro s s' p' hg
    obtain ⟨i, j, j', hran⟩ := ran_of_grant? hg
    exact hran.getElem?_of_isOver hk hover
  · intro s s' i p' hr
    obtain ⟨j, j', hran⟩ := ran_of_resume? hr
    exact hran.getElem?_of_isOver hk hover

theorem getElem?_moves_of_isOver {p : Processor} {k : Nat} {ended : Job}
    (hk : p.jobs[k]? = some ended) (hover : ended.isOver = true) (ms : List Move) :
    (p.moves ms).jobs[k]? = some ended :=
  List.foldlRecOn (motive := fun p' => p'.jobs[k]? = some ended) ms move hk
    fun _ h m _ => getElem?_move_of_isOver h hover m

theorem isOver_iff {p : Processor} {k : Nat} :
    p.isOver k = true ↔ ∃ j, p.jobs[k]? = some j ∧ j.isOver = true := by
  unfold isOver result? Job.isOver
  cases p.jobs[k]? <;> simp

/-- A job that runs on was not over. -/
theorem Ran.isOver {p p' : Processor} {s s' : Scene} {i : Nat} {j j' : Job}
    (h : p.Ran s p' s' i j j') : p.isOver i = false := by
  rw [Bool.eq_false_iff]
  intro hover
  obtain ⟨ended, hended, hover⟩ := isOver_iff.1 hover
  obtain rfl := Option.some.inj (h.found.symm.trans hended)
  rw [h.onward.isOver] at hover
  cases hover

theorem isOver_moves {p : Processor} {k : Nat} (h : p.isOver k = true) (ms : List Move) :
    (p.moves ms).isOver k = true := by
  obtain ⟨j, hj, hover⟩ := isOver_iff.1 h
  exact isOver_iff.2 ⟨j, getElem?_moves_of_isOver hj hover ms, hover⟩

/-! ## The law -/

/-- As long as a permit is free, the first job in line can be admitted. -/
theorem exists_grant? {p : Processor} (hfree : p.free ≠ 0) (hwaiting : ∃ j ∈ p.jobs, j.isWaiting)
    (s : Scene) : ∃ s' p', p.grant? s = some (s', p') := by
  unfold grant? next?
  rw [if_neg hfree]
  cases hi : p.jobs.findIdx? Job.isWaiting with
  | none =>
    obtain ⟨j, hj, hw⟩ := hwaiting
    have hnone := List.findIdx?_eq_none_iff.1 hi j hj
    rw [hw] at hnone
    cases hnone
  | some i =>
    obtain ⟨hlt, -, -⟩ := List.findIdx?_eq_some_iff_getElem.1 hi
    rw [Option.bind_eq_bind, Option.bind_some, List.getElem?_eq_getElem hlt]
    exact ⟨_, _, rfl⟩

/-- What holds of a processor that may handle so many deliveries at once. -/
structure AdmissionLaw (limit : Nat) (p : Processor) : Prop where
  /-- No more jobs than the limit have a permit, ... -/
  bound : p.inFlight ≤ max limit 1
  /-- ... so of no more of them there is work under way. -/
  works : (p.jobs.filterMap Job.work?).length ≤ max limit 1
  /-- Of two jobs the one that came first is admitted first. -/
  order : ∀ (i k : Nat) (j j' : Job), i < k → p.jobs[i]? = some j → p.jobs[k]? = some j' →
    j'.isWaiting = false → j.isWaiting = false
  /-- Every permit is free or with a job that has it. -/
  permits : p.free + p.inFlight = max limit 1
  /-- Where no job is running all permits are free. -/
  restored : (∀ j ∈ p.jobs, j.isRunning = false) → p.free = max limit 1
  /-- A free permit goes to the first job in line. -/
  admits : p.free ≠ 0 → (∃ j ∈ p.jobs, j.isWaiting) → ∀ s, ∃ s' p', p.grant? s = some (s', p')

theorem length_works_le (p : Processor) : (p.jobs.filterMap Job.work?).length ≤ p.inFlight := by
  rw [List.length_filterMap_eq_countP, inFlight]
  exact List.countP_mono_left fun j _ => Job.isRunning_of_work?

/-- After every history of a processor no more deliveries are being handled than its settings allow,
they were admitted in order, and every permit has come back that is not in use. -/
theorem admission_law (settings : ConsumerSettings) (registry : Registry) (observers : List String)
    (ms : List Move) :
    AdmissionLaw settings.concurrencyLimit.toNat
      ((ofSettings settings registry observers).moves ms) := by
  have h := (balanced_ofSettings settings registry observers).moves ms
  have hpermits : ((ofSettings settings registry observers).moves ms).free +
      ((ofSettings settings registry observers).moves ms).inFlight =
        max settings.concurrencyLimit.toNat 1 := by
    rw [h.permits, permits, moves_settings]
    rfl
  generalize (ofSettings settings registry observers).moves ms = p at h hpermits
  constructor
  · omega
  · calc (p.jobs.filterMap Job.work?).length
        ≤ p.inFlight := p.length_works_le
      _ ≤ p.free + p.inFlight := Nat.le_add_left _ _
      _ = max settings.concurrencyLimit.toNat 1 := hpermits
  · intro i k j j' hik hj hj' hadmitted
    by_contra hw
    rw [h.order i k j j' hik hj hj' (by simpa using hw)] at hadmitted
    cases hadmitted
  · exact hpermits
  · intro hidle
    have hnone : p.inFlight = 0 := List.countP_eq_zero.2 fun j hj => by simp [hidle j hj]
    calc p.free
        = p.free + p.inFlight := by rw [hnone, Nat.add_zero]
      _ = max settings.concurrencyLimit.toNat 1 := hpermits
  · exact fun hfree hwaiting s => exists_grant? hfree hwaiting s

end Processor

end MessageBus
