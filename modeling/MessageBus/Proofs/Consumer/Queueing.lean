import Mathlib.Data.Nat.Find
import Mathlib.Order.Bounds.Defs
import MessageBus.Proofs.Consumer.Shift

/-!
# When deliveries are handled

The deliveries of a shift are handled as by a queue with as many servers as there are workers. A
delivery is due once it has come, the one before it has begun, and fewer of those before it are
unfinished than there are servers; it begins at the first moment at which it is due
(`Timely.begins`), and it does begin (`Timely.begun_of_due`). So the times at which the deliveries
come and the time that each of them takes settle all the beginnings (`Timely.begun_eq`). Between the
moment at which a job gets its permit and that at which it does something no time goes by
(`punctual_after`), so either of them is its beginning.
-/

set_option autoImplicit false

namespace MessageBus

namespace Job

/-- The time since which a job has had a permit. -/
def begun? (j : Job) : Option Nat :=
  match j.phase with
  | .waiting => none
  | .admitted since | .running since _ | .ended since _ _ => some since

/-- The time at which a job was over. -/
def finished? (j : Job) : Option Nat :=
  match j.phase with
  | .ended _ finish _ => some finish
  | _ => none

theorem begun?_eq_none {j : Job} : j.begun? = none ↔ j.isWaiting = true := by
  unfold begun? isWaiting
  cases j.phase <;> simp

theorem isSome_finished? (j : Job) : j.finished?.isSome = j.isOver := by
  unfold finished? isOver result?
  cases j.phase <;> rfl

end Job

/-- At most one more time is known, namely the present one. -/
def Adds (now : Nat) (f f' : Option Nat) : Prop := f' = f ∨ (f = none ∧ f' = some now)

theorem Adds.kept {now : Nat} {f f' : Option Nat} (h : Adds now f f') {t : Nat}
    (ht : f = some t) : f' = some t := by
  rcases h with rfl | ⟨hnone, -⟩
  · exact ht
  · rw [hnone] at ht
    cases ht

theorem Adds.old {now : Nat} {f f' : Option Nat} (h : Adds now f f') {t : Nat}
    (ht : f' = some t) (hlt : t < now) : f = some t := by
  rcases h with rfl | ⟨-, hnow⟩
  · exact ht
  · rw [hnow] at ht
    have heq := Option.some.inj ht
    omega

theorem Adds.le {now : Nat} {f f' : Option Nat} (h : Adds now f f')
    (hle : ∀ t, f = some t → t ≤ now) {t : Nat} (ht : f' = some t) : t ≤ now := by
  rcases h with rfl | ⟨-, hnow⟩
  · exact hle t ht
  · rw [hnow] at ht
    exact Nat.le_of_eq (Option.some.inj ht).symm

theorem adds_settled (j : Job) (since : Nat) (work : Parked Outcome) (s : Scene) :
    (j.settled since work s).begun? = some since ∧
      Adds s.now none (j.settled since work s).finished? := by
  cases work with
  | ended result => exact ⟨rfl, .inr ⟨rfl, rfl⟩⟩
  | stranded | sleeping | backingOff => exact ⟨rfl, .inl rfl⟩

/-- A job that goes on has had its permit since the time that is known of it. -/
theorem Processor.Due.begun? {p : Processor} {s : Scene} {j : Job} {since : Nat}
    {rest : Task Outcome} (h : p.Due s j since rest) : j.begun? = some since := by
  unfold Job.begun?
  cases h with
  | begins hphase | wakes hphase _ => rw [hphase]

/-- A job that comes further begins now or has begun, and is over now or not yet. -/
theorem Processor.Onward.adds {p : Processor} {s s' : Scene} {j j' : Job}
    (h : p.Onward s j s' j') :
    Adds s.now j.begun? j'.begun? ∧ Adds s.now j.finished? j'.finished? := by
  have hover : j.finished? = none := by
    rw [← Option.not_isSome_iff_eq_none, Job.isSome_finished?, h.isOver]
    simp
  have hnow := Shift.now_onward h
  rw [hover]
  cases h with
  | admitted hwaiting => exact ⟨.inr ⟨Job.begun?_eq_none.2 hwaiting, rfl⟩, .inl rfl⟩
  | @resumed since work rest s' hdue hwork =>
    obtain ⟨hbegun, hfinished⟩ := adds_settled j since work s'
    rw [hnow] at hfinished
    exact ⟨.inl (hbegun.trans hdue.begun?.symm), hfinished⟩

namespace Processor

variable {p p' : Processor} {s s' : Scene} {i : Nat} {j j' : Job}

/-- What is known of the jobs grows by what happens now, and a job that begins was there before. -/
structure Grows (now : Nat) (p p' : Processor) : Prop where
  begun : ∀ k : Nat, Adds now ((p.jobs[k]?).bind Job.begun?) ((p'.jobs[k]?).bind Job.begun?)
  finished : ∀ k : Nat,
    Adds now ((p.jobs[k]?).bind Job.finished?) ((p'.jobs[k]?).bind Job.finished?)
  handed : ∀ k : Nat, (p.jobs[k]?).bind Job.begun? = none →
    (p'.jobs[k]?).bind Job.begun? ≠ none → k < p.jobs.length

theorem grows_refl (now : Nat) (p : Processor) : p.Grows now p where
  begun _ := .inl rfl
  finished _ := .inl rfl
  handed _ hnone hsome := absurd hnone hsome

/-- A job that runs on begins or ends, and all others are as they were. -/
theorem Ran.grows (h : p.Ran s p' s' i j j') : p.Grows s.now p' := by
  have hadds {f : Job → Option Nat} (hf : Adds s.now (f j) (f j')) (k : Nat) :
      Adds s.now ((p.jobs[k]?).bind f) ((p'.jobs[k]?).bind f) := by
    rcases h.getElem? k with ⟨-, hk, hk'⟩ | hk
    · rw [hk, hk']
      exact hf
    · rw [hk]
      exact .inl rfl
  obtain ⟨hbegun, hfinished⟩ := h.onward.adds
  refine ⟨hadds hbegun, hadds hfinished, fun k hnone hsome => ?_⟩
  rcases h.getElem? k with ⟨-, hk, -⟩ | hk
  · exact (List.getElem?_eq_some_iff.1 hk).1
  · rw [hk] at hsome
    exact absurd hnone hsome

/-- A new job waits, and is neither begun nor over. -/
theorem grows_request (now : Nat) (p : Processor) (d : Delivery) (a : Acknowledger) (t : Token) :
    p.Grows now (p.request d a t).1 := by
  have hjob {f : Job → Option Nat} (hf : f ⟨d, a, t, .waiting⟩ = none) (k : Nat) :
      (((p.request d a t).1.jobs)[k]?).bind f = (p.jobs[k]?).bind f := by
    rw [request_jobs]
    cases hk : p.jobs[k]? with
    | some j => rw [List.getElem?_append_left (List.getElem?_eq_some_iff.1 hk).1, hk]
    | none =>
      rw [List.getElem?_append_right (List.getElem?_eq_none_iff.1 hk)]
      cases hk' : [(⟨d, a, t, .waiting⟩ : Job)][k - p.jobs.length]? with
      | none => rfl
      | some j =>
        obtain rfl := List.mem_singleton.1 (List.mem_of_getElem? hk')
        exact hf
  exact ⟨fun k => .inl (hjob rfl k), fun k => .inl (hjob rfl k),
    fun k hnone hsome => absurd ((hjob rfl k).trans hnone) hsome⟩

end Processor

namespace Shift

/-- When a delivery came. -/
def arrived (h : Shift) (k : Nat) : Option Nat := (h.arrivals[k]?).map Prod.fst

/-- When the handling of a delivery began, with the permit it got. -/
def begun (h : Shift) (k : Nat) : Option Nat := (h.crew.processor.jobs[k]?).bind Job.begun?

/-- When the handling of a delivery was over. -/
def finished (h : Shift) (k : Nat) : Option Nat := (h.crew.processor.jobs[k]?).bind Job.finished?

/-- When the handling of the delivery before began; the first one has none before it. -/
def begunBefore (h : Shift) : Nat → Option Nat
  | 0 => some 0
  | k + 1 => h.begun k

/-- How many of the deliveries before one are not finished at a time. -/
def ahead (h : Shift) (k t : Nat) : Nat :=
  (List.range k).countP fun i => !(h.finished i).any (· ≤ t)

/-- A delivery may be handled from a time on, where so many are handled at once. -/
structure Due (servers : Nat) (h : Shift) (k t : Nat) : Prop where
  arrived : ∃ a ≤ t, h.arrived k = some a
  inOrder : ∃ b ≤ t, h.begunBefore k = some b
  room : h.ahead k t < servers

variable {servers : Nat} {h h' : Shift} {v : PoolView} {k t : Nat}

theorem ahead_le_ahead {t t' : Nat}
    (hle : ∀ i < k, ∀ f, h.finished i = some f → f ≤ t → ∃ f' ≤ t', h'.finished i = some f') :
    h'.ahead k t' ≤ h.ahead k t := by
  refine List.countP_mono_left fun i hi hno => ?_
  rw [Bool.not_eq_true'] at hno ⊢
  by_contra hyes
  obtain ⟨f, hf, hft⟩ := (Option.any_eq_true ..).1 (by simpa using hyes)
  obtain ⟨f', hft', hf'⟩ := hle i (List.mem_range.1 hi) f hf (by simpa using hft)
  rw [hf'] at hno
  simp at hno
  omega

theorem Due.mono {t' : Nat} (hd : Due servers h k t) (hle : t ≤ t') : Due servers h k t' where
  arrived := by
    obtain ⟨a, ha, harrived⟩ := hd.arrived
    exact ⟨a, Nat.le_trans ha hle, harrived⟩
  inOrder := by
    obtain ⟨b, hb, hbegun⟩ := hd.inOrder
    exact ⟨b, Nat.le_trans hb hle, hbegun⟩
  room :=
    Nat.lt_of_le_of_lt (ahead_le_ahead fun _ _ f hf hft => ⟨f, Nat.le_trans hft hle, hf⟩) hd.room

/-! ## What a step adds -/

/-- What is known of the deliveries grows by what happens now. -/
structure Grown (h h' : Shift) : Prop where
  now : h'.now = h.now
  arrived : ∀ k, Adds h.now (h.arrived k) (h'.arrived k)
  begun : ∀ k, Adds h.now (h.begun k) (h'.begun k)
  finished : ∀ k, Adds h.now (h.finished k) (h'.finished k)

theorem Grown.begunBefore (hg : Grown h h') (k : Nat) :
    Adds h.now (h.begunBefore k) (h'.begunBefore k) := by
  cases k with
  | zero => exact .inl rfl
  | succ k => exact hg.begun k

theorem Grown.due (hg : Grown h h') (hd : Due servers h k t) : Due servers h' k t where
  arrived := by
    obtain ⟨a, ha, harrived⟩ := hd.arrived
    exact ⟨a, ha, (hg.arrived k).kept harrived⟩
  inOrder := by
    obtain ⟨b, hb, hbegun⟩ := hd.inOrder
    exact ⟨b, hb, (hg.begunBefore k).kept hbegun⟩
  room := Nat.lt_of_le_of_lt
    (ahead_le_ahead fun i _ f hf hft => ⟨f, hft, (hg.finished i).kept hf⟩) hd.room

/-- What was due in the past is settled. -/
theorem Grown.due_of_lt (hg : Grown h h') (hlt : t < h.now) (hd : Due servers h' k t) :
    Due servers h k t where
  arrived := by
    obtain ⟨a, ha, harrived⟩ := hd.arrived
    exact ⟨a, ha, (hg.arrived k).old harrived (by omega)⟩
  inOrder := by
    obtain ⟨b, hb, hbegun⟩ := hd.inOrder
    exact ⟨b, hb, (hg.begunBefore k).old hbegun (by omega)⟩
  room := Nat.lt_of_le_of_lt
    (ahead_le_ahead fun i _ f hf hft => ⟨f, hft, (hg.finished i).old hf (by omega)⟩) hd.room

theorem adds_getElem?_append {now : Nat} {l more : List (Nat × Delivery × Acknowledger)}
    (hmore : ∀ a ∈ more, a.1 = now) (k : Nat) :
    Adds now ((l[k]?).map Prod.fst) (((l ++ more)[k]?).map Prod.fst) := by
  by_cases hk : k < l.length
  · rw [List.getElem?_append_left hk]
    exact .inl rfl
  · rw [List.getElem?_append_right (Nat.le_of_not_lt hk),
      List.getElem?_eq_none (Nat.le_of_not_lt hk)]
    cases hm : more[k - l.length]? with
    | none => exact .inl rfl
    | some a => exact .inr ⟨rfl, by simp [hmore a (List.mem_of_getElem? hm)]⟩

theorem now_of_mem_arrival {l : Crew.Label} {a : Nat × Delivery × Acknowledger}
    (ha : a ∈ h.arrival l) : a.1 = h.now := by
  unfold arrival at ha
  split at ha
  · split at ha
    · rw [List.mem_singleton.1 ha]
    · cases ha
  · cases ha

/-- A step adds to what is known, and a job that begins was handed over before. -/
theorem grown_take (h : Shift) (l : Crew.Label) :
    Grown h (h.take l) ∧ ∀ k, h.begun k = none → (h.take l).begun k ≠ none →
      k < h.crew.processor.jobs.length := by
  rcases h.take_cases l with hsame | ⟨s, c, -, hstep, htake⟩
  · rw [hsame]
    exact ⟨⟨rfl, fun _ => .inl rfl, fun _ => .inl rfl, fun _ => .inl rfl⟩,
      fun k hnone hsome => absurd hnone hsome⟩
  · rw [htake]
    have hs := Crew.stepped_of_step hstep
    have hgrows : h.crew.processor.Grows h.now c.processor := by
      rcases hs.jobs with ⟨i, j, j', hran⟩ | ⟨_, _, d, a, token, -, -, hproc⟩ | hproc
      · exact hran.grows
      · rw [hproc]
        exact Processor.grows_request ..
      · rw [hproc]
        exact Processor.grows_refl ..
    exact ⟨⟨now_stepped hs, fun k => adds_getElem?_append (fun _ ha => now_of_mem_arrival ha) k,
      hgrows.begun, hgrows.finished⟩, hgrows.handed⟩

/-! ## Beginnings -/

/-- Nothing that is known lies in the future. -/
structure Past (h : Shift) : Prop where
  arrived_le : ∀ k a, h.arrived k = some a → a ≤ h.now
  begun_le : ∀ k b, h.begun k = some b → b ≤ h.now
  finished_le : ∀ k f, h.finished k = some f → f ≤ h.now
  begun_le_finished : ∀ k b f, h.begun k = some b → h.finished k = some f → b ≤ f

/-- What is over has begun. -/
theorem exists_begun_of_finished {f : Nat} (hf : h.finished k = some f) :
    ∃ b, h.begun k = some b := by
  obtain ⟨j, hj, hfinished⟩ := Option.bind_eq_some_iff.1 hf
  unfold Job.finished? at hfinished
  split at hfinished
  · next since finish result hphase =>
    exact ⟨since, by rw [begun, hj, Option.bind_some, Job.begun?, hphase]⟩
  · cases hfinished

theorem Past.grown (hp : Past h) (hg : Grown h h') : Past h' where
  arrived_le k a ha := by
    rw [hg.now]
    exact (hg.arrived k).le (hp.arrived_le k) ha
  begun_le k b hb := by
    rw [hg.now]
    exact (hg.begun k).le (hp.begun_le k) hb
  finished_le k f hf := by
    rw [hg.now]
    exact (hg.finished k).le (hp.finished_le k) hf
  begun_le_finished k b f hb hf := by
    rcases hg.finished k with hsame | ⟨-, hnow⟩
    · rw [hsame] at hf
      obtain ⟨b', hb'⟩ := exists_begun_of_finished hf
      obtain rfl := Option.some.inj (((hg.begun k).kept hb').symm.trans hb)
      exact hp.begun_le_finished k b' f hb' hf
    · obtain rfl := Option.some.inj (hnow.symm.trans hf)
      exact (hg.begun k).le (hp.begun_le k) hb

/-- What holds of the times in a shift with so many servers. -/
structure Timely (servers : Nat) (h : Shift) : Prop extends Past h where
  /-- What has begun was due, ... -/
  due : ∀ k b, h.begun k = some b → Due servers h k b
  /-- ... and what was due has begun. -/
  prompt : ∀ k t, t < h.now → Due servers h k t → ∃ b ≤ t, h.begun k = some b

theorem Timely.grown (ht : Timely servers h) (hg : Grown h h')
    (hdue : ∀ k, h.begun k = none → h'.begun k = some h.now → Due servers h' k h.now) :
    Timely servers h' where
  toPast := ht.toPast.grown hg
  due k b hb := by
    rcases hg.begun k with hsame | ⟨hnone, hnow⟩
    · exact hg.due (ht.due k b (hsame ▸ hb))
    · obtain rfl := Option.some.inj (hnow.symm.trans hb)
      exact hdue k hnone hnow
  prompt k t hlt hd := by
    rw [hg.now] at hlt
    obtain ⟨b, hb, hbegun⟩ := ht.prompt k t hlt (hg.due_of_lt hlt hd)
    exact ⟨b, hb, (hg.begun k).kept hbegun⟩

theorem isOver_eq (h : Shift) (i : Nat) :
    h.crew.processor.isOver i = (h.finished i).isSome := by
  unfold Processor.isOver Processor.result? finished
  cases h.crew.processor.jobs[i]? with
  | none => rfl
  | some j => exact (j.isSome_finished?).symm

/-- What is not finished now is not over. -/
theorem Past.ahead_now (hp : Past h) (k : Nat) :
    h.ahead k h.now = (List.range k).countP fun i => !h.crew.processor.isOver i := by
  refine List.countP_congr fun i _ => ?_
  rw [isOver_eq]
  cases hf : h.finished i with
  | none => simp
  | some f => simpa using hp.finished_le i f hf

/-- A job that has no permit yet is one of those that are not over, so there is room for it. -/
theorem Past.ahead_lt (hp : Past h) (hm : Manned servers h v)
    (hk : k < h.crew.processor.jobs.length) (hnone : h.begun k = none) :
    h.ahead k h.now < servers := by
  have hover : h.crew.processor.isOver k = false := by
    have hj := List.getElem?_eq_getElem hk
    have hwaiting : h.crew.processor.jobs[k].begun? = none := by
      rw [begun, hj] at hnone
      exact hnone
    rw [isOver_eq, finished, hj, Option.bind_some, Job.isSome_finished?]
    rw [Job.begun?_eq_none] at hwaiting
    unfold Job.isWaiting at hwaiting
    unfold Job.isOver Job.result?
    cases hphase : h.crew.processor.jobs[k].phase <;> simp_all
  have hsub : (List.range (k + 1)).Sublist (List.range h.crew.processor.jobs.length) :=
    List.range_sublist.2 hk
  calc h.ahead k h.now + 1
      = (List.range (k + 1)).countP fun i => !h.crew.processor.isOver i := by
        rw [hp.ahead_now, List.range_succ, List.countP_append]
        simp [hover]
    _ ≤ (List.range h.crew.processor.jobs.length).countP fun i => !h.crew.processor.isOver i :=
        hsub.countP_le
    _ = h.crew.processor.unfinished.length := List.countP_eq_length_filter
    _ ≤ servers := hm.length_unfinished

/-- A delivery whose job has begun has come, and the one before it has begun. -/
theorem Past.due_of_begun (hp : Past h) (hm : Manned servers h v) {b : Nat}
    (hb : h.begun k = some b) (hroom : h.ahead k h.now < servers) : Due servers h k h.now := by
  obtain ⟨j, hj, hbegun⟩ := Option.bind_eq_some_iff.1 hb
  have hk := (List.getElem?_eq_some_iff.1 hj).1
  refine ⟨?_, ?_, hroom⟩
  · have hlength := congrArg List.length hm.arrived
    rw [List.length_map, List.length_append, Processor.length_tickets] at hlength
    have ha : h.arrived k = some h.arrivals[k].1 := by
      rw [arrived, List.getElem?_eq_getElem (by omega)]
      rfl
    exact ⟨_, hp.arrived_le k _ ha, ha⟩
  · cases k with
    | zero => exact ⟨0, Nat.zero_le _, rfl⟩
    | succ k =>
      have hj' := List.getElem?_eq_getElem (Nat.lt_of_succ_lt hk)
      cases hbefore : h.begun k with
      | some b' => exact ⟨b', hp.begun_le k b' hbefore, hbefore⟩
      | none =>
        -- jobs are admitted in order
        rw [begun, hj', Option.bind_some, Job.begun?_eq_none] at hbefore
        have hwaiting := hm.balanced.order k (k + 1) _ j (Nat.lt_succ_self k) hj' hj hbefore
        rw [← Job.begun?_eq_none, hbegun] at hwaiting
        cases hwaiting

theorem Timely.take (ht : Timely servers h) (hm : Manned servers h v) (l : Crew.Label) :
    Timely servers (h.take l) := by
  obtain ⟨hg, hold⟩ := h.grown_take l
  obtain ⟨v', hm'⟩ := hm.take l
  refine ht.grown hg fun k hnone hbegun => ?_
  have hk := hold k hnone (by simp [hbegun])
  rw [← hg.now]
  refine (ht.toPast.grown hg).due_of_begun hm' hbegun ?_
  calc (h.take l).ahead k (h.take l).now
      = (h.take l).ahead k h.now := by rw [hg.now]
    _ ≤ h.ahead k h.now :=
        ahead_le_ahead fun i _ f hf hft => ⟨f, hft, (hg.finished i).kept hf⟩
    _ < servers := ht.ahead_lt hm hk hnone

/-- Where nothing can be done for any delivery, what is due has begun. -/
theorem Past.begun_of_due (hp : Past h) (hm : Manned servers h v)
    (hidle : h.crew.isReady h.scene = false) (hd : Due servers h k h.now) :
    ∃ b ≤ h.now, h.begun k = some b := by
  cases hbegun : h.begun k with
  | some b => exact ⟨b, hp.begun_le k b hbegun, rfl⟩
  | none =>
    exfalso
    have hready {l : Crew.Label} (hl : l.serves = true) (hstep : h.crew.step h.scene l ≠ none) :
        False := by
      rw [isReady_of_step hl hstep] at hidle
      cases hidle
    have hwaiting : ∀ j ∈ h.crew.processor.jobs, j.isWaiting = false := by
      intro j hj
      by_contra hw
      rw [hm.isReady_of_waiting ⟨j, hj, by simpa using hw⟩] at hidle
      cases hidle
    -- all deliveries before it are jobs, but it is none itself, so it stands on the stream
    have hge : h.crew.processor.jobs.length ≤ k := by
      by_contra hlt
      have hj := List.getElem?_eq_getElem (Nat.lt_of_not_le hlt)
      rw [begun, hj, Option.bind_some, Job.begun?_eq_none,
        hwaiting _ (List.getElem_mem _)] at hbegun
      cases hbegun
    have hle : k ≤ h.crew.processor.jobs.length := by
      cases k with
      | zero => exact Nat.zero_le _
      | succ k =>
        obtain ⟨b, -, hb⟩ := hd.inOrder
        obtain ⟨j, hj, -⟩ := Option.bind_eq_some_iff.1 hb
        exact (List.getElem?_eq_some_iff.1 hj).1
    obtain rfl : k = h.crew.processor.jobs.length := Nat.le_antisymm hle hge
    have hstream : v.stream ≠ [] := by
      obtain ⟨a, -, ha⟩ := hd.arrived
      obtain ⟨arrival, harrival, -⟩ := Option.map_eq_some_iff.1 ha
      have hlt := (List.getElem?_eq_some_iff.1 harrival).1
      have hlength := congrArg List.length hm.arrived
      rw [List.length_map, List.length_append, Processor.length_tickets] at hlength
      rintro hnil
      rw [hnil] at hlength
      simp [deliveries] at hlength
      omega
    -- and there is a worker that could take it, or could be done with its job
    have hroom : h.crew.processor.unfinished.length < servers := by
      have hahead := hd.room
      rwa [hp.ahead_now, List.countP_eq_length_filter] at hahead
    obtain ⟨n, phase, hn, hover⟩ := hm.exists_free hroom
    cases phase with
    | idle => exact hready (l := .pull 0 n) rfl (Crew.step_pull_ne_none hm.found hn hstream)
    | busy i =>
      exact hready (l := .rest 0 n) rfl (Crew.step_rest_ne_none hm.found hn (hover i rfl))
    | gone time => exact hstream (hm.gone n time hn).1

theorem Timely.next (ht : Timely servers h) (hm : Manned servers h v) (e : Event) :
    Timely servers (h.next e) := by
  have hsame (hg : Grown h (h.next e)) (hbegun : (h.next e).begun = h.begun) :
      Timely servers (h.next e) := by
    refine ht.grown hg fun k hnone hnow => ?_
    rw [hbegun, hnone] at hnow
    cases hnow
  cases e with
  | step l => exact ht.take hm l
  | tick =>
    rw [Shift.next]
    split
    · exact ht
    · next hidle =>
      have hnow : ({ h with scene := h.scene.after 1 } : Shift).now = h.now + 1 := rfl
      refine ⟨⟨?_, ?_, ?_, ht.begun_le_finished⟩,
        fun k b hb => ⟨(ht.due k b hb).1, ?_, (ht.due k b hb).3⟩, ?_⟩
      · intro k a ha
        exact Nat.le_succ_of_le (ht.arrived_le k a ha)
      · intro k b hb
        exact Nat.le_succ_of_le (ht.begun_le k b hb)
      · intro k f hf
        exact Nat.le_succ_of_le (ht.finished_le k f hf)
      · cases k <;> exact (ht.due _ b hb).2
      · intro k t hlt hd
        have hd' : Due servers h k t := ⟨hd.1, by cases k <;> exact hd.2, hd.3⟩
        rw [hnow] at hlt
        rcases Nat.lt_succ_iff_lt_or_eq.1 hlt with hlt | rfl
        · exact ht.prompt k t hlt hd'
        · exact ht.toPast.begun_of_due hm (by simpa using hidle) hd'
  | elsewhere s =>
    exact hsame ⟨rfl, fun _ => .inl rfl, fun _ => .inl rfl, fun _ => .inl rfl⟩ rfl
  | connectHandler handler =>
    exact hsame ⟨rfl, fun _ => .inl rfl, fun _ => .inl rfl, fun _ => .inl rfl⟩ rfl
  | addObserver name =>
    exact hsame ⟨rfl, fun _ => .inl rfl, fun _ => .inl rfl, fun _ => .inl rfl⟩ rfl

theorem Timely.after (ht : Timely servers h) (hm : Manned servers h v) (es : List Event) :
    Timely servers (h.after es) := by
  induction es generalizing h v with
  | nil => exact ht
  | cons e rest ih =>
    obtain ⟨v', hm'⟩ := hm.next e
    exact ih (ht.next hm e) hm'

theorem timely_start (settings : ConsumerSettings) (registry : Registry) (observers : List String)
    (s : Scene) (parent : Token) :
    Timely settings.concurrencyLimit.toNat (start settings registry observers s parent) := by
  refine ⟨⟨?_, ?_, ?_, ?_⟩, ?_, ?_⟩
  · intro k a ha
    cases ha
  · intro k b hb
    cases hb
  · intro k f hf
    cases hf
  · intro k b f hb
    cases hb
  · intro k b hb
    cases hb
  · intro k t _ hd
    obtain ⟨a, -, ha⟩ := hd.arrived
    cases ha

/-! ## From the permit to the beginning -/

/-- Whoever has a permit and has not begun got it just now. -/
def Punctual (h : Shift) : Prop :=
  ∀ j ∈ h.crew.processor.jobs, ∀ since, j.phase = .admitted since → since = h.now

theorem punctual_onward {p : Processor} {s s' : Scene} {j j' : Job} (ho : p.Onward s j s' j')
    {since : Nat} (hphase : j'.phase = .admitted since) : since = s.now := by
  cases ho with
  | admitted _ => exact (JobPhase.admitted.inj hphase).symm
  | @resumed _ work _ _ _ _ => cases work <;> cases hphase

theorem Punctual.take (hp : Punctual h) (l : Crew.Label) : Punctual (h.take l) := by
  rcases h.take_cases l with hsame | ⟨s, c, -, hstep, htake⟩
  · rwa [hsame]
  rw [htake]
  have hs := Crew.stepped_of_step hstep
  have hnow : s.now = h.scene.now := now_stepped hs
  intro j hj since hphase
  show since = s.now
  rw [hnow]
  rcases hs.jobs with ⟨i, j₀, j', hran⟩ | ⟨_, _, d, a, token, -, -, hproc⟩ | hproc
  · have hmem : j ∈ c.processor.jobs := hj
    rw [hran.jobs] at hmem
    rcases List.mem_or_eq_of_mem_set hmem with hmem | rfl
    · exact hp j hmem since hphase
    · exact punctual_onward hran.onward hphase
  · have hmem : j ∈ c.processor.jobs := hj
    rw [hproc, Processor.request_jobs, List.mem_append, List.mem_singleton] at hmem
    rcases hmem with hmem | rfl
    · exact hp j hmem since hphase
    · cases hphase
  · exact hp j (hproc ▸ hj) since hphase

theorem Punctual.next (hp : Punctual h) (e : Event) : Punctual (h.next e) := by
  cases e with
  | step l => exact hp.take l
  | tick =>
    rw [Shift.next]
    split
    · exact hp
    · next hidle =>
      -- where somebody could begin, the clock does not go on
      intro j hj since hphase
      exact absurd (isReady_of_admitted (h := h) hj hphase) hidle
  | elsewhere s => exact hp
  | connectHandler handler => exact hp
  | addObserver name => exact hp

/-- No time goes by between the admission of a job and its beginning. -/
theorem punctual_after (settings : ConsumerSettings) (registry : Registry) (observers : List String)
    (s : Scene) (parent : Token) (es : List Event) :
    Punctual ((start settings registry observers s parent).after es) := by
  refine List.foldlRecOn (motive := Punctual) es next (fun j hj => ?_) fun h hp e _ => hp.next e
  cases hj

/-! ## The recurrence -/

/-- A delivery begins at the first moment at which it is due. -/
theorem Timely.isLeast (ht : Timely servers h) {b : Nat} (hb : h.begun k = some b) :
    IsLeast {t | Due servers h k t} b := by
  refine ⟨ht.due k b hb, fun t hd => ?_⟩
  by_contra hlt
  have hlate := ht.begun_le k b hb
  obtain ⟨b', hb', hbegun⟩ := ht.prompt k t (by omega) hd
  obtain rfl := Option.some.inj (hb.symm.trans hbegun)
  omega

/-- A delivery begins when it has come, the one before it has begun, and there is room for it,
whichever of these is the last. -/
theorem Timely.begins (ht : Timely servers h) {b : Nat} (hb : h.begun k = some b) :
    ∃ a before free, h.arrived k = some a ∧ h.begunBefore k = some before ∧
      IsLeast {t | h.ahead k t < servers} free ∧ b = max (max a before) free := by
  classical
  have hleast := ht.isLeast hb
  obtain ⟨⟨a, ha, harrived⟩, ⟨before, hbefore, hbegun⟩, hroom⟩ := hleast.1
  have hexists : ∃ t, h.ahead k t < servers := ⟨b, hroom⟩
  have hfree : Nat.find hexists ≤ b := Nat.find_min' hexists hroom
  have hdue : Due servers h k (max (max a before) (Nat.find hexists)) := by
    refine ⟨⟨a, by omega, harrived⟩, ⟨before, by omega, hbegun⟩, ?_⟩
    refine Nat.lt_of_le_of_lt (ahead_le_ahead fun i _ f hf hft => ⟨f, ?_, hf⟩)
      (Nat.find_spec hexists)
    exact Nat.le_trans hft (Nat.le_max_right _ _)
  have hle := hleast.2 hdue
  refine ⟨a, before, _, harrived, hbegun,
    ⟨Nat.find_spec hexists, fun t h => Nat.find_min' hexists h⟩, ?_⟩
  omega

theorem Timely.exists_begun (ht : Timely servers h) (hm : Manned servers h v)
    (hidle : h.crew.isReady h.scene = false) (hd : Due servers h k t) (hnow : t ≤ h.now) :
    ∃ b ≤ t, h.begun k = some b := by
  rcases Nat.lt_or_eq_of_le hnow with hlt | rfl
  · exact ht.prompt k t hlt hd
  · exact ht.toPast.begun_of_due hm hidle hd

/-- And it does begin as soon as that is so. -/
theorem Timely.begun_of_le (ht : Timely servers h) (hm : Manned servers h v)
    (hidle : h.crew.isReady h.scene = false) {a before free : Nat} (ha : h.arrived k = some a)
    (hbefore : h.begunBefore k = some before) (hfree : h.ahead k free < servers)
    (hnow : max (max a before) free ≤ h.now) : ∃ b, h.begun k = some b := by
  have hd : Due servers h k h.now := by
    refine ⟨⟨a, by omega, ha⟩, ⟨before, by omega, hbefore⟩, ?_⟩
    refine Nat.lt_of_le_of_lt (ahead_le_ahead fun i _ f hf hft => ⟨f, ?_, hf⟩) hfree
    omega
  obtain ⟨b, -, hb⟩ := ht.exists_begun hm hidle hd (Nat.le_refl _)
  exact ⟨b, hb⟩

/-! ## Two shifts -/

/-- Two shifts have the same deliveries, as far as both of them go: they come at the same times, and
where they begin at the same time they take equally long. -/
structure SameLoad (h h' : Shift) : Prop where
  arrived : ∀ k a, a ≤ h.now → a ≤ h'.now → (h.arrived k = some a ↔ h'.arrived k = some a)
  finished : ∀ k b f, h.begun k = some b → h'.begun k = some b → f ≤ h.now → f ≤ h'.now →
    (h.finished k = some f ↔ h'.finished k = some f)

theorem SameLoad.symm (hl : SameLoad h h') : SameLoad h' h where
  arrived k a ha ha' := (hl.arrived k a ha' ha).symm
  finished k b f hb hb' hf hf' := (hl.finished k b f hb' hb hf' hf).symm

/-- What is due in one of two shifts with the same load is due in the other, if all that was before
it has begun at the same times. -/
theorem SameLoad.due (hl : SameLoad h h') {t : Nat} (hnow : t ≤ h.now) (hnow' : t ≤ h'.now)
    (hsame : ∀ i < k, ∀ b, b ≤ t → (h.begun i = some b ↔ h'.begun i = some b)) (hp : Past h)
    (hd : Due servers h k t) : Due servers h' k t where
  arrived := by
    obtain ⟨a, ha, harrived⟩ := hd.arrived
    exact ⟨a, ha, (hl.arrived k a (by omega) (by omega)).1 harrived⟩
  inOrder := by
    obtain ⟨b, hb, hbefore⟩ := hd.inOrder
    cases k with
    | zero => exact ⟨b, hb, hbefore⟩
    | succ k => exact ⟨b, hb, (hsame k (Nat.lt_succ_self k) b hb).1 hbefore⟩
  room := by
    refine Nat.lt_of_le_of_lt (ahead_le_ahead fun i hi f hf hft => ?_) hd.room
    obtain ⟨b, hb⟩ := exists_begun_of_finished hf
    have hbf := hp.begun_le_finished i b f hb hf
    have hb' := (hsame i hi b (by omega)).1 hb
    exact ⟨f, hft, (hl.finished i b f hb hb' (by omega) (by omega)).1 hf⟩

/-- One of two shifts with the same load, if all that was before has begun at the same times. -/
theorem SameLoad.begun (hl : SameLoad h h') {v' : PoolView} (ht : Timely servers h)
    (ht' : Timely servers h') (hm' : Manned servers h' v')
    (hidle' : h'.crew.isReady h'.scene = false) {b : Nat} (hnow' : b ≤ h'.now)
    (hsame : ∀ i < k, ∀ b, b ≤ h.now → b ≤ h'.now → (h.begun i = some b ↔ h'.begun i = some b))
    (hb : h.begun k = some b) : h'.begun k = some b := by
  have hnow := ht.begun_le k b hb
  have hd : Due servers h' k b :=
    hl.due hnow hnow' (fun i hi b' hb' => hsame i hi b' (by omega) (by omega)) ht.toPast
      (ht.due k b hb)
  obtain ⟨b', hle, hb'⟩ := ht'.exists_begun hm' hidle' hd hnow'
  -- what was due there was due here too, so it cannot have begun earlier
  have hd' : Due servers h k b' :=
    hl.symm.due (by omega) (by omega)
      (fun i hi b'' hb'' => (hsame i hi b'' (by omega) (by omega)).symm) ht'.toPast
      (ht'.due k b' hb')
  have hge : b ≤ b' := (ht.isLeast hb).2 hd'
  obtain rfl : b' = b := Nat.le_antisymm hle hge
  exact hb'

/-- In two shifts with the same load all deliveries begin at the same times. -/
theorem Timely.begun_eq {v' : PoolView} (ht : Timely servers h) (hm : Manned servers h v)
    (hidle : h.crew.isReady h.scene = false) (ht' : Timely servers h') (hm' : Manned servers h' v')
    (hidle' : h'.crew.isReady h'.scene = false) (hl : SameLoad h h') (k b : Nat) (hnow : b ≤ h.now)
    (hnow' : b ≤ h'.now) : h.begun k = some b ↔ h'.begun k = some b := by
  induction k using Nat.strongRecOn generalizing b with
  | ind k ih =>
    constructor
    · exact fun hb => hl.begun ht ht' hm' hidle' hnow' (fun i hi b hb hb' => ih i hi b hb hb') hb
    · exact fun hb => hl.symm.begun ht' ht hm hidle hnow
        (fun i hi b hb hb' => (ih i hi b hb' hb).symm) hb

end Shift

end MessageBus
