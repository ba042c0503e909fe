import MessageBus.Proofs.Consumer.Crew

/-!
# What becomes of the deliveries of a pool

A ledger follows one pool through a history: what has come on its stream, what its workers have
taken, which jobs of the processor they handed over, and whether they were sent away. `Kept` is what
ledger and crew have to do with each other after every move.
-/

set_option autoImplicit false

namespace MessageBus

/-- The deliveries among some items, each with who settles it. -/
def deliveries (items : List StreamItem) : List (Delivery × Acknowledger) :=
  items.filterMap fun
    | .delivery d a => some (d, a)
    | .fault => none

@[simp] theorem deliveries_append (items items' : List StreamItem) :
    deliveries (items ++ items') = deliveries items ++ deliveries items' := List.filterMap_append

/-- What a job is about. -/
def Job.ticket (j : Job) : Delivery × Acknowledger := (j.delivery, j.acknowledger)

namespace Processor

/-- What the jobs are about, in the order in which they came. -/
def tickets (p : Processor) : List (Delivery × Acknowledger) := p.jobs.map Job.ticket

@[simp] theorem length_tickets (p : Processor) : p.tickets.length = p.jobs.length :=
  List.length_map _

@[simp] theorem tickets_request (p : Processor) (d : Delivery) (a : Acknowledger) (t : Token) :
    (p.request d a t).1.tickets = p.tickets ++ [(d, a)] := by
  simp [tickets, Job.ticket]

theorem Ran.tickets {p p' : Processor} {s s' : Scene} {i : Nat} {j j' : Job}
    (h : p.Ran s p' s' i j j') :
    p'.tickets = p.tickets := by
  have hticket : j'.ticket = j.ticket := by
    unfold Job.ticket
    rw [h.onward.delivery, h.onward.acknowledger]
  unfold Processor.tickets
  rw [h.jobs, List.map_set, hticket]
  refine set_of_getElem? ?_
  rw [List.getElem?_map, h.found]
  rfl

end Processor

namespace Crew

/-! ## Ledgers -/

/-- Whether the stream of a pool is open. -/
def isStreaming (c : Crew) (k : Nat) : Bool := (c.pools[k]?).any (·.streaming)

/-- What comes next on the stream of a pool. -/
def next? (c : Crew) (k : Nat) : Option StreamItem := (c.pools[k]?).bind (·.stream.head?)

/-- Whether the workers of a pool are sent away. -/
def isDismissed (s : Scene) (c : Crew) (k : Nat) : Bool := (c.pools[k]?).any (s.isCancelled ·.token)

/-- What is remembered of a pool. -/
structure Ledger where
  /-- What has come on its stream. -/
  arrived : List StreamItem := []
  /-- What its workers have taken. -/
  taken : List StreamItem := []
  /-- For each job of the processor whether one of the workers handed it over. -/
  mine : List Bool := []
  /-- Whether the workers were sent away before a step. -/
  dismissed : Bool := false

namespace Ledger

/-- The jobs that the workers of the pool handed over. -/
def handed (L : Ledger) (p : Processor) : List (Delivery × Acknowledger) :=
  (p.tickets.zip L.mine).filterMap fun (ticket, mine) => if mine then some ticket else none

/-- A worker of this or of another pool takes an item. -/
def pulled (L : Ledger) (mine : Bool) (item : StreamItem) : Ledger :=
  { L with
    taken := if mine then L.taken ++ [item] else L.taken
    mine := match item with
      | .delivery _ _ => L.mine ++ [mine]
      | .fault => L.mine }

/-- What a step adds to the ledger of pool number `k`. -/
def record (L : Ledger) (k : Nat) (s : Scene) (c : Crew) : Label → Ledger
  | .arrive pool item =>
    if pool = k ∧ c.isStreaming k then { L with arrived := L.arrived ++ [item] } else L
  | .pull pool worker =>
    match c.step s (.pull pool worker), c.next? pool with
    | some _, some item => L.pulled (pool == k) item
    | _, _ => L
  | _ => L

/-- The ledger after a move. -/
def after (L : Ledger) (k : Nat) (c : Crew) : Move → Ledger
  | .own s l => { L with dismissed := L.dismissed || c.isDismissed s k }.record k s c l
  | .request _ _ _ => { L with mine := L.mine ++ [false] }
  | .connectHandler _ | .addObserver _ | .spawn _ _ _ => L

/-- The ledger of a pool that is about to begin its work. -/
def fresh (c : Crew) : Ledger := { mine := List.replicate c.processor.jobs.length false }

/-- The ledger after some moves. -/
def follow (k : Nat) : Crew → Ledger → List Move → Ledger
  | _, L, [] => L
  | c, L, m :: ms => follow k (c.move m) (L.after k c m) ms

@[simp] theorem follow_nil (k : Nat) (c : Crew) (L : Ledger) : follow k c L [] = L := rfl

@[simp] theorem follow_cons (k : Nat) (c : Crew) (L : Ledger) (m : Move) (ms : List Move) :
    follow k c L (m :: ms) = follow k (c.move m) (L.after k c m) ms := rfl

/-- One more job is one of the pool's, or it is not. -/
theorem handed_request {L L' : Ledger} {p : Processor} {mine : Bool}
    (hlength : L.mine.length = p.jobs.length) (hmine : L'.mine = L.mine ++ [mine]) (d : Delivery)
    (a : Acknowledger) (t : Token) :
    L'.handed (p.request d a t).1 = L.handed p ++ if mine then [(d, a)] else [] := by
  unfold handed
  rw [hmine, Processor.tickets_request, List.zip_append (by simp [hlength]), List.filterMap_append]
  cases mine <;> rfl

end Ledger

/-! ## What is kept -/

/-- What holds of a crew, the view of one of its pools, and the ledger of that pool. -/
structure Kept (workers : Nat) (token : Token) (k : Nat) (c : Crew) (v : PoolView) (L : Ledger) :
    Prop where
  found : c.views[k]? = some v
  token : v.token = token
  size : v.phases.length = workers
  /-- What has come is taken, up to what stands on the stream. -/
  stream : L.arrived = L.taken ++ v.stream
  length : L.mine.length = c.processor.jobs.length
  /-- Each delivery that was taken is one job. -/
  handed : L.handed c.processor = deliveries L.taken
  busy : ∀ (n i : Nat), v.phases[n]? = some (.busy i) → L.mine[i]? = some true
  attended : ∀ (i : Nat), L.mine[i]? = some true → Attended (· = k) c i
  gone : ∀ (n time : Nat), v.phases[n]? = some (.gone time) →
    L.dismissed = true ∨ (v.stream = [] ∧ v.streaming = false)

variable {workers : Nat} {token : Token} {k : Nat} {c c' : Crew} {v v' : PoolView} {L L' : Ledger}
  {s s' : Scene} {l : Label}

/-- A step that hands nothing over keeps what concerns the jobs. -/
theorem Kept.of_tickets (h : Kept workers token k c v L) (hs : Stepped s c l s' c')
    (htickets : c'.processor.tickets = c.processor.tickets) (hfound : c'.views[k]? = some v')
    (htoken : v'.token = v.token) (hsize : v'.phases.length = v.phases.length)
    (hstream : L'.arrived = L'.taken ++ v'.stream) (hmine : L'.mine = L.mine)
    (htaken : deliveries L'.taken = deliveries L.taken)
    (hbusy : ∀ (n i : Nat), v'.phases[n]? = some (.busy i) → v.phases[n]? = some (.busy i))
    (hgone : ∀ (n time : Nat), v'.phases[n]? = some (.gone time) →
      L'.dismissed = true ∨ (v'.stream = [] ∧ v'.streaming = false)) :
    Kept workers token k c' v' L' where
  found := hfound
  token := htoken.trans h.token
  size := hsize.trans h.size
  stream := hstream
  length := by
    rw [hmine, h.length, ← c'.processor.length_tickets, htickets, Processor.length_tickets]
  handed := by
    rw [htaken, ← h.handed]
    unfold Ledger.handed
    rw [htickets, hmine]
  busy := by
    intro n i hn
    rw [hmine]
    exact h.busy n i (hbusy n i hn)
  attended := by
    intro i hi
    rw [hmine] at hi
    exact (h.attended i hi).step hs
  gone := hgone

/-- A step that leaves the pool alone and hands nothing over. -/
theorem Kept.elsewhere (h : Kept workers token k c v L) (hs : Stepped s c l s' c')
    (htickets : c'.processor.tickets = c.processor.tickets)
    (hfound : c'.views[k]? = c.views[k]?) : Kept workers token k c' v L :=
  h.of_tickets hs htickets (hfound.trans h.found) rfl rfl h.stream rfl rfl (fun _ _ hn => hn) h.gone

theorem getElem?_concat {α : Type} {l : List α} {a b : α} {i : Nat} :
    (l ++ [a])[i]? = some b ↔ l[i]? = some b ∨ (i = l.length ∧ a = b) := by
  -- before the new element, at its place, or after it
  rcases Nat.lt_trichotomy i l.length with hlt | rfl | hgt
  · rw [List.getElem?_append_left hlt]
    simp [Nat.ne_of_lt hlt]
  · simp
  · have hlength : (l ++ [a]).length ≤ i := by
      rw [List.length_append]
      exact hgt
    rw [List.getElem?_eq_none hlength, List.getElem?_eq_none (Nat.le_of_lt hgt)]
    simp [Nat.ne_of_gt hgt]

theorem getElem?_set_eq {α : Type} {l : List α} {a b : α} {i n : Nat}
    (h : (l.set n a)[i]? = some b) : (i = n ∧ a = b) ∨ l[i]? = some b := by
  by_cases hi : n = i
  · subst hi
    obtain ⟨hlt, hb⟩ := List.getElem?_eq_some_iff.1 h
    exact .inl ⟨rfl, by simpa using hb⟩
  · rw [List.getElem?_set_ne hi] at h
    exact .inr h

/-- Somebody else hands over a job. -/
theorem Kept.foreign (h : Kept workers token k c v L) {d : Delivery} {a : Acknowledger} {t : Token}
    (hproc : c'.processor = (c.processor.request d a t).1) (hfound : c'.views[k]? = c.views[k]?)
    (hattended : ∀ i, Attended (· = k) c i → Attended (· = k) c' i) :
    Kept workers token k c' v { L with mine := L.mine ++ [false] } where
  found := hfound.trans h.found
  token := h.token
  size := h.size
  stream := h.stream
  length := by rw [hproc, Processor.request_jobs]; simp [h.length]
  handed := by
    rw [hproc, Ledger.handed_request (L := L) h.length rfl]
    simp [h.handed]
  busy n i hn := getElem?_concat.2 (.inl (h.busy n i hn))
  attended := by
    intro i hi
    rcases getElem?_concat.1 hi with hi | ⟨-, hfalse⟩
    · exact hattended i (h.attended i hi)
    · cases hfalse
  gone := h.gone

/-- A worker of the pool takes a delivery. -/
theorem Kept.pull (h : Kept workers token k c v L) {n : Nat} {d : Delivery} {a : Acknowledger}
    {rest : List StreamItem} (hs : Stepped s c l s' c') (hidle : v.phases[n]? = some .idle)
    (hstream : v.stream = .delivery d a :: rest)
    (hproc : c'.processor = (c.processor.request d a v.token).1)
    (hviews : c'.views = c.views.set k (v.rest.setPhase n (.busy c.processor.jobs.length))) :
    Kept workers token k c' (v.rest.setPhase n (.busy c.processor.jobs.length))
      (L.pulled true (.delivery d a)) := by
  have hfound : c'.views[k]? = some (v.rest.setPhase n (.busy c.processor.jobs.length)) := by
    rw [hviews, List.getElem?_set_self (List.getElem?_eq_some_iff.1 h.found).1]
  refine ⟨hfound, h.token, ?_, ?_, ?_, ?_, ?_, ?_, ?_⟩
  · show (v.phases.set n _).length = workers
    rw [List.length_set, h.size]
  · show L.arrived = (L.taken ++ [.delivery d a]) ++ v.stream.tail
    calc L.arrived
        = L.taken ++ v.stream := h.stream
      _ = L.taken ++ .delivery d a :: v.stream.tail := by rw [hstream, List.tail_cons]
      _ = (L.taken ++ [.delivery d a]) ++ v.stream.tail := by simp
  · show (L.mine ++ [true]).length = c'.processor.jobs.length
    rw [hproc, Processor.request_jobs]
    simp [h.length]
  · have hmine : (L.pulled true (.delivery d a)).mine = L.mine ++ [true] := rfl
    calc (L.pulled true (.delivery d a)).handed c'.processor
        = L.handed c.processor ++ [(d, a)] := by
          rw [hproc, Ledger.handed_request h.length hmine]
          rfl
      _ = deliveries L.taken ++ deliveries [.delivery d a] := by rw [h.handed]; rfl
      _ = deliveries (L.taken ++ [.delivery d a]) := by rw [deliveries_append]
  · -- the job that was handed over is the last one, and the one for which the worker waits
    intro m i hm
    rcases getElem?_set_eq hm with ⟨-, hjob⟩ | hm
    · exact getElem?_concat.2 (.inr ⟨by rw [h.length]; exact (WorkerPhase.busy.inj hjob).symm, rfl⟩)
    · exact getElem?_concat.2 (.inl (h.busy m i hm))
  · intro i hi
    rcases getElem?_concat.1 hi with hi | ⟨rfl, -⟩
    · exact (h.attended i hi).step hs
    · rw [h.length]
      exact .inr ⟨k, n, rfl, phase?_set_self h.found hidle hviews rfl⟩
  · intro m time hm
    rcases getElem?_set_eq hm with ⟨-, hjob⟩ | hm
    · cases hjob
    · rcases h.gone m time hm with hdismissed | ⟨hempty, -⟩
      · exact .inl hdismissed
      · rw [hstream] at hempty
        cases hempty

/-- A worker of the pool goes on, but not to a job. -/
theorem Kept.setPhase (h : Kept workers token k c v L) {n : Nat} {phase : WorkerPhase}
    (hs : Stepped s c l s' c') (hproc : c'.processor = c.processor)
    (hviews : c'.views = c.views.set k (v.setPhase n phase)) (hbusy : ∀ i, phase ≠ .busy i)
    (hgone : ∀ time, phase = .gone time →
      L.dismissed = true ∨ (v.stream = [] ∧ v.streaming = false)) :
    Kept workers token k c' (v.setPhase n phase) L := by
  have hfound : c'.views[k]? = some (v.setPhase n phase) := by
    rw [hviews, List.getElem?_set_self (List.getElem?_eq_some_iff.1 h.found).1]
  refine h.of_tickets hs (by rw [hproc]) hfound rfl (List.length_set ..) h.stream rfl rfl ?_ ?_
  · intro m i hm
    rcases getElem?_set_eq hm with ⟨-, hphase⟩ | hm
    · exact absurd hphase (hbusy i)
    · exact hm
  · intro m time hm
    rcases getElem?_set_eq hm with ⟨-, hphase⟩ | hm
    · exact hgone time hphase
    · exact h.gone m time hm

/-- Something comes on the stream of the pool. -/
theorem Kept.push (h : Kept workers token k c v L) {item : StreamItem}
    (hs : Stepped s c l s' c') (hproc : c'.processor = c.processor)
    (hviews : c'.views = c.views.modify k (·.push item)) :
    Kept workers token k c' (v.push item)
      (if v.streaming then { L with arrived := L.arrived ++ [item] } else L) := by
  have hfound : c'.views[k]? = some (v.push item) := by
    rw [hviews, List.getElem?_modify, h.found]
    simp
  refine h.of_tickets hs (by rw [hproc]) hfound (by simp) (by simp) ?_ ?_ ?_ (by simp) ?_
  · cases hstreaming : v.streaming <;> simp [PoolView.push, hstreaming, h.stream]
  · cases v.streaming <;> rfl
  · cases v.streaming <;> rfl
  · intro n time hn
    rw [PoolView.push_phases] at hn
    rcases h.gone n time hn with hdismissed | ⟨hempty, hended⟩
    · left
      cases v.streaming <;> exact hdismissed
    · exact .inr ⟨by simp [PoolView.push, hended, hempty], by simp [hended]⟩

/-- The stream of the pool ends. -/
theorem Kept.endStream (h : Kept workers token k c v L) (hs : Stepped s c l s' c')
    (hproc : c'.processor = c.processor)
    (hviews : c'.views = c.views.modify k PoolView.endStream) :
    Kept workers token k c' v.endStream L := by
  have hfound : c'.views[k]? = some v.endStream := by
    rw [hviews, List.getElem?_modify, h.found]
    simp
  exact h.of_tickets hs (by rw [hproc]) hfound rfl rfl h.stream rfl rfl (fun _ _ hn => hn)
    fun n time hn => (h.gone n time hn).imp id fun hended => ⟨hended.1, rfl⟩

/-- A worker of the pool passes over a fault of the stream. -/
theorem Kept.pass (h : Kept workers token k c v L) {rest : List StreamItem}
    (hs : Stepped s c l s' c') (hproc : c'.processor = c.processor)
    (hstream : v.stream = .fault :: rest) (hviews : c'.views = c.views.set k v.rest) :
    Kept workers token k c' v.rest (L.pulled true .fault) := by
  have hfound : c'.views[k]? = some v.rest := by
    rw [hviews, List.getElem?_set_self (List.getElem?_eq_some_iff.1 h.found).1]
  refine h.of_tickets hs (by rw [hproc]) hfound rfl rfl ?_ rfl ?_ (fun _ _ hn => hn) ?_
  · show L.arrived = (L.taken ++ [.fault]) ++ v.stream.tail
    calc L.arrived
        = L.taken ++ v.stream := h.stream
      _ = L.taken ++ .fault :: v.stream.tail := by rw [hstream, List.tail_cons]
      _ = (L.taken ++ [.fault]) ++ v.stream.tail := by simp
  · show deliveries (L.taken ++ [.fault]) = deliveries L.taken
    rw [deliveries_append]
    exact List.append_nil _
  · -- a worker that is gone although the stream was not empty was sent away
    intro n time hn
    rcases h.gone n time hn with hdismissed | ⟨hempty, -⟩
    · exact .inl hdismissed
    · rw [hstream] at hempty
      cases hempty

/-! ## The ledger after a step -/

theorem next?_eq (h : c.views[k]? = some v) : c.next? k = v.stream.head? := by
  rw [getElem?_views, Option.map_eq_some_iff] at h
  obtain ⟨p, hp, rfl⟩ := h
  rw [next?, hp]
  rfl

theorem isStreaming_eq (h : c.views[k]? = some v) : c.isStreaming k = v.streaming := by
  rw [getElem?_views, Option.map_eq_some_iff] at h
  obtain ⟨p, hp, rfl⟩ := h
  rw [isStreaming, hp]
  rfl

theorem isDismissed_eq (h : c.views[k]? = some v) : c.isDismissed s k = s.isCancelled v.token := by
  rw [getElem?_views, Option.map_eq_some_iff] at h
  obtain ⟨p, hp, rfl⟩ := h
  rw [isDismissed, hp]
  rfl

theorem Ledger.record_pull {k' n : Nat} {item : StreamItem} {rest : List StreamItem}
    (h : c.step s (.pull k' n) = some (s', c')) (hv : c.views[k']? = some v)
    (hstream : v.stream = item :: rest) :
    L.record k s c (.pull k' n) = L.pulled (k' == k) item := by
  simp only [record, h, next?_eq hv, hstream, List.head?_cons]

/-- A step that cannot be taken is not recorded. -/
theorem Ledger.record_of_none (h : c.step s l = none) : L.record k s c l = L := by
  cases l with
  | arrive k' item => cases h
  | pull k' n => rw [record, h]
  | _ => rfl

/-- Every step keeps the ledger in order. -/
theorem Kept.record (h : Kept workers token k c v L)
    (hdismissed : s.isCancelled token = true → L.dismissed = true)
    (hstep : c.step s l = some (s', c')) : ∃ v', Kept workers token k c' v' (L.record k s c l) := by
  have hs := stepped_of_step hstep
  have hat {k' : Nat} {v₀ : PoolView} (hv : c.views[k']? = some v₀) (hk : k' = k) : v₀ = v := by
    rw [hk, h.found] at hv
    exact (Option.some.inj hv).symm
  have hother {k' : Nat} {v' : PoolView} (hviews : c'.views = c.views.set k' v') (hk : k' ≠ k) :
      c'.views[k]? = c.views[k]? := by rw [hviews, List.getElem?_set_ne hk]
  have helse {k' : Nat} {f : PoolView → PoolView} (hviews : c'.views = c.views.modify k' f)
      (hk : k' ≠ k) : c'.views[k]? = c.views[k]? := by
    rw [hviews, List.getElem?_modify_ne _ _ hk]
  -- what happens in the pool has a lemma above; in all other pools the ledger has no part, but for
  -- the job that a worker of theirs hands over
  cases stepped_of_step hstep with
  | grant hrun hviews =>
    obtain ⟨_, _, _, hran⟩ := Processor.ran_of_grant? hrun
    exact ⟨v, h.elsewhere hs hran.tickets (by rw [hviews])⟩
  | resume hrun hviews =>
    obtain ⟨_, _, hran⟩ := Processor.ran_of_resume? hrun
    exact ⟨v, h.elsewhere hs hran.tickets (by rw [hviews])⟩
  | news hl hproc hviews =>
    have hL : L.record k s c l = L := by cases l <;> first | rfl | cases hl
    rw [hL]
    exact ⟨v, h.elsewhere hs (by rw [hproc]) (by rw [hviews])⟩
  | dismiss =>
    exact ⟨v, h⟩
  | @arrive k' item _ hproc hviews =>
    rw [Ledger.record]
    by_cases hk : k' = k
    · subst hk
      have hpush := h.push hs hproc hviews
      rw [isStreaming_eq h.found]
      exact ⟨_, by simpa using hpush⟩
    · rw [if_neg (fun hp => hk hp.1)]
      exact ⟨v, h.elsewhere hs (by rw [hproc]) (helse hviews hk)⟩
  | @endStream k' _ hproc hviews =>
    by_cases hk : k' = k
    · subst hk
      exact ⟨_, h.endStream hs hproc hviews⟩
    · exact ⟨v, h.elsewhere hs (by rw [hproc]) (helse hviews hk)⟩
  | @leave k' n v₀ _ hv hidle hcancelled hproc hviews =>
    by_cases hk : k' = k
    · -- the token is cancelled, so the ledger says that the workers were sent away
      obtain rfl := hat hv hk
      subst hk
      rw [h.token] at hcancelled
      exact ⟨_, h.setPhase hs hproc hviews (by simp) fun _ _ => .inl (hdismissed hcancelled)⟩
    · exact ⟨v, h.elsewhere hs (by rw [hproc]) (hother hviews hk)⟩
  | @finish k' n v₀ _ hv hidle hstream hended hproc hviews =>
    by_cases hk : k' = k
    · obtain rfl := hat hv hk
      subst hk
      exact ⟨_, h.setPhase hs hproc hviews (by simp) fun _ _ => .inr ⟨hstream, hended⟩⟩
    · exact ⟨v, h.elsewhere hs (by rw [hproc]) (hother hviews hk)⟩
  | @rest k' n job v₀ _ hv hbusy hover hproc hviews =>
    by_cases hk : k' = k
    · obtain rfl := hat hv hk
      subst hk
      exact ⟨_, h.setPhase hs hproc hviews (by simp) (by simp)⟩
    · exact ⟨v, h.elsewhere hs (by rw [hproc]) (hother hviews hk)⟩
  | @pullFault k' n v₀ stream _ hv hidle hstream hproc hviews =>
    rw [Ledger.record_pull hstep hv hstream]
    by_cases hk : k' = k
    · obtain rfl := hat hv hk
      subst hk
      rw [beq_self_eq_true]
      exact ⟨_, h.pass hs hproc hstream hviews⟩
    · rw [beq_false_of_ne hk]
      exact ⟨v, h.elsewhere hs (by rw [hproc]) (hother hviews hk)⟩
  | @pull k' n v₀ d a stream _ hv hidle hstream hproc hviews =>
    rw [Ledger.record_pull hstep hv hstream]
    by_cases hk : k' = k
    · obtain rfl := hat hv hk
      subst hk
      rw [beq_self_eq_true]
      exact ⟨_, h.pull hs hidle hstream hproc hviews⟩
    · rw [beq_false_of_ne hk]
      exact ⟨v, h.foreign hproc (hother hviews hk) fun i hi => hi.step hs⟩

/-! ## The ledger after a history -/

theorem Kept.dismiss (h : Kept workers token k c v L) (dismissed : Bool) :
    Kept workers token k c v { L with dismissed := L.dismissed || dismissed } where
  found := h.found
  token := h.token
  size := h.size
  stream := h.stream
  length := h.length
  handed := h.handed
  busy := h.busy
  attended := h.attended
  gone n time hn := (h.gone n time hn).imp_left fun hd => by rw [hd]; rfl

/-- A pool is not disturbed by those that begin their work after it. -/
theorem Kept.spawn (h : Kept workers token k c v L) (parent : Token) (n : Nat) :
    Kept workers token k (c.move (.spawn s parent n)) v L := by
  have hviews : (c.move (.spawn s parent n)).views = c.views ++ [(Pool.spawn s parent n).2.view] :=
    List.map_append
  refine ⟨?_, h.token, h.size, h.stream, h.length, h.handed, h.busy, ?_, h.gone⟩
  · rw [hviews, List.getElem?_append_left (List.getElem?_eq_some_iff.1 h.found).1, h.found]
  · exact fun i hi => (h.attended i hi).append rfl hviews

theorem Kept.move (h : Kept workers token k c v L) (m : Move) :
    ∃ v', Kept workers token k (c.move m) v' (L.after k c m) := by
  cases m with
  | own s l =>
    have hdismiss := h.dismiss (c.isDismissed s k)
    have hcancelled : s.isCancelled token = true → (L.dismissed || c.isDismissed s k) = true := by
      intro hc
      rw [isDismissed_eq h.found, h.token, hc, Bool.or_true]
    rcases c.move_own s l with ⟨hnone, hsame⟩ | ⟨s', hstep, -⟩
    · rw [hsame, Ledger.after, Ledger.record_of_none hnone]
      exact ⟨v, hdismiss⟩
    · exact hdismiss.record hcancelled hstep
  | request d a t => exact ⟨v, h.foreign rfl rfl fun i hi => hi.imp_left fun hover =>
      Processor.isOver_moves hover [.request d a t]⟩
  | connectHandler _ | addObserver _ =>
    exact ⟨v, h.found, h.token, h.size, h.stream, h.length, h.handed, h.busy, h.attended, h.gone⟩
  | spawn s parent n => exact ⟨v, h.spawn parent n⟩

theorem Kept.moves (h : Kept workers token k c v L) (ms : List Move) :
    ∃ v', Kept workers token k (c.moves ms) v' (Ledger.follow k c L ms) := by
  induction ms generalizing c v L with
  | nil => exact ⟨v, h⟩
  | cons m rest ih =>
    obtain ⟨v', h'⟩ := h.move m
    exact ih h'

/-- A pool that begins its work has a fresh ledger. -/
theorem kept_spawn (c : Crew) (s : Scene) (parent : Token) (workers : Nat) :
    Kept workers (s.makeToken (some parent)).2 c.pools.length
      (c.move (.spawn s parent workers)) (Pool.spawn s parent workers).2.view (.fresh c) := by
  have hview := Pool.view_spawn s parent workers
  refine ⟨?_, by rw [hview], by simp [hview], by rw [hview]; rfl, by simp [Ledger.fresh]; rfl, ?_,
    ?_, ?_, ?_⟩
  · rw [getElem?_views]
    simp [move]
  · -- the jobs that are there already are not the pool's
    have hnone (ts : List (Delivery × Acknowledger)) (n : Nat) :
        (ts.zip (List.replicate n false)).filterMap
          (fun (ticket, mine) => if mine then some ticket else none) = [] := by
      rw [List.filterMap_eq_nil_iff]
      rintro ⟨ticket, mine⟩ hmem
      have hfalse := List.eq_of_mem_replicate (List.of_mem_zip hmem).2
      simp [hfalse]
    exact hnone _ _
  · intro n i hn
    rw [hview] at hn
    have hidle := List.eq_of_mem_replicate (List.mem_of_getElem? hn)
    cases hidle
  · intro i hi
    have hfalse := List.eq_of_mem_replicate (List.mem_of_getElem? hi)
    cases hfalse
  · intro n time hn
    rw [hview] at hn
    have hidle := List.eq_of_mem_replicate (List.mem_of_getElem? hn)
    cases hidle

end Crew

end MessageBus
