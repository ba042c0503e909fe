import MessageBus.Proofs.Consumer.Ledger
import MessageBus.Proofs.Consumer.Progress

/-!
# How pools are drained

`pool_law` says what holds of a pool after every history. Its workers take what comes on the stream
in order and hand each delivery to the processor once. Once they are all gone, all of their jobs are
over, and nothing is done for any of them from then on. They go only when they are sent away or
nothing is left on a stream that has ended, and then they do go.
-/

set_option autoImplicit false

namespace MessageBus.Crew

variable {workers : Nat} {token : Token} {k : Nat} {c c' : Crew} {v : PoolView} {L L' : Ledger}
  {s s' : Scene} {l : Label}

/-! ## Pools without workers -/

/-- The pool has no workers left, all jobs they handed over are over, and nothing that happens in
the scene is done for one of them. -/
structure Closed (k : Nat) (c : Crew) (L : Ledger) : Prop where
  drained : c.isDrained k = true
  finished : ∀ i : Nat, L.mine[i]? = some true → c.processor.isOver i = true
  silent : ∀ s s' c' l, c.step s l = some (s', c') →
    (∃ tokens, s' = { s with tokens }) ∨
      ∃ i j j', c.processor.Ran s c'.processor s' i j j' ∧ L.mine[i]? ≠ some true

theorem isDrained_eq (h : c.views[k]? = some v) : c.isDrained k = v.phases.all (·.isGone) := by
  rw [getElem?_views, Option.map_eq_some_iff] at h
  obtain ⟨p, hp, rfl⟩ := h
  rw [isDrained, hp]
  exact p.isDrained_eq

/-- Where all workers are gone, every pool is drained. -/
theorem isDrained_of_views {c : Crew}
    (h : ∀ (k : Nat) (v : PoolView), c.views[k]? = some v → v.phases.all (·.isGone) = true)
    (k : Nat) : c.isDrained k = true := by
  cases hv : c.views[k]? with
  | none =>
    rw [getElem?_views, Option.map_eq_none_iff] at hv
    simp [isDrained, hv]
  | some v => rw [isDrained_eq hv, h k v hv]

theorem isGone_of_all (h : v.phases.all (·.isGone) = true) {n : Nat} {phase : WorkerPhase}
    (hn : v.phases[n]? = some phase) : phase.isGone = true :=
  List.all_eq_true.1 h phase (List.mem_of_getElem? hn)

/-- No worker comes back to a pool. -/
theorem Stepped.isDrained (hs : Stepped s c l s' c') (hv : c.views[k]? = some v)
    (hgone : v.phases.all (·.isGone) = true) :
    ∃ v', c'.views[k]? = some v' ∧ v'.phases.all (·.isGone) = true := by
  -- a worker that does something is not gone, so it is one of another pool
  have hset {k' n : Nat} {v₀ v' : PoolView} {phase : WorkerPhase} (hv₀ : c.views[k']? = some v₀)
      (hn : v₀.phases[n]? = some phase) (hphase : phase.isGone = false)
      (hviews : c'.views = c.views.set k' v') :
      ∃ v', c'.views[k]? = some v' ∧ v'.phases.all (·.isGone) = true := by
    have hk : k' ≠ k := by
      rintro rfl
      obtain rfl := Option.some.inj (hv.symm.trans hv₀)
      rw [isGone_of_all hgone hn] at hphase
      cases hphase
    exact ⟨v, by rw [hviews, List.getElem?_set_ne hk, hv], hgone⟩
  have hmodify {k' : Nat} {f : PoolView → PoolView} (hf : ∀ v, (f v).phases = v.phases)
      (hviews : c'.views = c.views.modify k' f) :
      ∃ v', c'.views[k]? = some v' ∧ v'.phases.all (·.isGone) = true := by
    refine ⟨if k' = k then f v else v, by rw [hviews, List.getElem?_modify, hv]; rfl, ?_⟩
    split
    · rw [hf, hgone]
    · exact hgone
  cases hs with
  | grant _ hviews | resume _ hviews | news _ _ hviews => exact ⟨v, by rw [hviews, hv], hgone⟩
  | dismiss => exact ⟨v, hv, hgone⟩
  | arrive _ hviews => exact hmodify (by simp) hviews
  | endStream _ hviews => exact hmodify (f := PoolView.endStream) (fun _ => rfl) hviews
  | leave hv₀ hidle _ _ hviews | finish hv₀ hidle _ _ _ hviews | pullFault hv₀ hidle _ _ hviews
  | pull hv₀ hidle _ _ hviews | rest hv₀ hidle _ _ hviews => exact hset hv₀ hidle rfl hviews

theorem Kept.closed (h : Kept workers token k c v L) (hdrained : c.isDrained k = true) :
    Closed k c L := by
  have hgone := hdrained
  rw [isDrained_eq h.found] at hgone
  -- a job of theirs that is not over would have a worker that waits for its end
  have hover (i : Nat) (hi : L.mine[i]? = some true) : c.processor.isOver i = true := by
    rcases h.attended i hi with hover | ⟨k', n, rfl, hbusy⟩
    · exact hover
    · obtain ⟨v', hv', hn⟩ := phase?_eq_some.1 hbusy
      obtain rfl := Option.some.inj (h.found.symm.trans hv')
      cases isGone_of_all hgone hn
  refine ⟨hdrained, hover, ?_⟩
  intro s s' c' l hstep
  rcases (stepped_of_step hstep).scene with ⟨i, j, j', hran⟩ | htokens
  · refine .inr ⟨i, j, j', hran, ?_⟩
    intro hi
    have hfinished := hover i hi
    rw [hran.isOver] at hfinished
    cases hfinished
  · exact .inl htokens

/-- What a ledger still says once the pool has no workers left: no more is taken or handed over. -/
structure Settled (L L' : Ledger) : Prop where
  taken : L'.taken = L.taken
  mine : ∀ i : Nat, L'.mine[i]? = some true ↔ L.mine[i]? = some true

theorem Settled.trans {L'' : Ledger} (h : Settled L L') (h' : Settled L' L'') : Settled L L'' where
  taken := h'.taken.trans h.taken
  mine i := (h'.mine i).trans (h.mine i)

theorem settled_foreign (L : Ledger) : Settled L { L with mine := L.mine ++ [false] } where
  taken := rfl
  mine i := by simp [getElem?_concat]

/-- Where no workers are left a step takes nothing from the stream. -/
theorem Ledger.settled_record (hv : c.views[k]? = some v)
    (hgone : v.phases.all (·.isGone) = true) (hstep : c.step s l = some (s', c')) :
    Settled L (L.record k s c l) := by
  have hrefl : Settled L L := ⟨rfl, fun _ => Iff.rfl⟩
  cases stepped_of_step hstep with
  | arrive _ _ =>
    rw [record]
    split <;> exact ⟨rfl, fun _ => Iff.rfl⟩
  | @pullFault k' n v₀ _ _ hv₀ hidle hstream _ _ =>
    rw [record_pull hstep hv₀ hstream]
    by_cases hk : k' = k
    · subst hk
      obtain rfl := Option.some.inj (hv.symm.trans hv₀)
      cases isGone_of_all hgone hidle
    · rw [beq_false_of_ne hk]
      exact hrefl
  | @pull k' n v₀ _ _ _ _ hv₀ hidle hstream _ _ =>
    rw [record_pull hstep hv₀ hstream]
    by_cases hk : k' = k
    · subst hk
      obtain rfl := Option.some.inj (hv.symm.trans hv₀)
      cases isGone_of_all hgone hidle
    · rw [beq_false_of_ne hk]
      exact settled_foreign L
  | news hl _ _ => cases l <;> first | exact hrefl | cases hl
  | _ => exact hrefl

theorem Kept.settled_after (h : Kept workers token k c v L)
    (hgone : v.phases.all (·.isGone) = true) (m : Move) :
    (∃ v', (c.move m).views[k]? = some v' ∧ v'.phases.all (·.isGone) = true) ∧
      Settled L (L.after k c m) := by
  cases m with
  | own s l =>
    have hdismiss : Settled L { L with dismissed := L.dismissed || c.isDismissed s k } :=
      ⟨rfl, fun _ => Iff.rfl⟩
    rcases c.move_own s l with ⟨hnone, hsame⟩ | ⟨s', hstep, hs⟩
    · rw [hsame, Ledger.after, Ledger.record_of_none hnone]
      exact ⟨⟨v, h.found, hgone⟩, hdismiss⟩
    · exact ⟨hs.isDrained h.found hgone, hdismiss.trans (Ledger.settled_record h.found hgone hstep)⟩
  | request d a t => exact ⟨⟨v, h.found, hgone⟩, settled_foreign L⟩
  | connectHandler _ | addObserver _ =>
    exact ⟨⟨v, h.found, hgone⟩, rfl, fun _ => Iff.rfl⟩
  | spawn s parent n => exact ⟨⟨v, (h.spawn parent n).found, hgone⟩, rfl, fun _ => Iff.rfl⟩

/-- A pool without workers stays one, and nothing is added to what its workers did. -/
theorem Kept.settled_follow (h : Kept workers token k c v L) (hdrained : c.isDrained k = true)
    (ms : List Move) :
    Closed k (c.moves ms) (Ledger.follow k c L ms) ∧ Settled L (Ledger.follow k c L ms) := by
  induction ms generalizing c v L with
  | nil => exact ⟨h.closed hdrained, rfl, fun _ => Iff.rfl⟩
  | cons m rest ih =>
    rw [isDrained_eq h.found] at hdrained
    obtain ⟨v', h'⟩ := h.move m
    obtain ⟨⟨v₀, hv₀, hgone⟩, hsettled⟩ := h.settled_after hdrained m
    obtain ⟨hclosed, hrest⟩ := ih h' (by rw [isDrained_eq hv₀, hgone])
    exact ⟨hclosed, hsettled.trans hrest⟩

/-! ## The law -/

/-- What holds of pool number `k` of a crew, with its ledger. -/
structure PoolLaw (k : Nat) (c : Crew) (p : Pool) (L : Ledger) : Prop where
  /-- The workers took the first part of what has come, and what they did not take is there. -/
  stream : L.arrived = L.taken ++ p.stream
  /-- The ledger knows of every job whether one of the workers handed it over, ... -/
  jobs : L.mine.length = c.processor.jobs.length
  /-- ... and these jobs are the deliveries that they took, each one once and in order. -/
  handed : L.handed c.processor = deliveries L.taken
  /-- Nothing happens in the scene, but that tokens are cancelled, except for a job. -/
  scene : ∀ s s' c' l, c.step s l = some (s', c') →
    (∃ i j j', c.processor.Ran s c'.processor s' i j j') ∨ ∃ tokens, s' = { s with tokens }
  /-- Once there are no workers left, all of their jobs are over and stay as they are, no more is
  taken from the stream, and nothing is done for a job of theirs, whatever happens. -/
  final : p.isDrained = true → ∀ ms, Closed k (c.moves ms) (Ledger.follow k c L ms) ∧
    Settled L (Ledger.follow k c L ms) ∧
    ∀ i : Nat, L.mine[i]? = some true → (c.moves ms).processor.jobs[i]? = c.processor.jobs[i]?
  /-- A worker goes only if it is sent away, or the stream has ended and nothing is left on it. -/
  stays : ∀ w ∈ p.workers, w.isGone = true →
    L.dismissed = true ∨ (p.stream = [] ∧ p.streaming = false)
  /-- So without workers everything that came has been taken, unless they were sent away. -/
  complete : p.isDrained = true → L.dismissed = false →
    p.streaming = false ∧ L.taken = L.arrived
  /-- Sending the workers away cancels their token, if the scene has it. -/
  sendAway : ∀ s : Scene, p.token < s.tokens.nodes.length →
    (c.dismiss s k).isCancelled p.token = true
  /-- By itself the crew takes only so many steps, ... -/
  finite : Acc Follows c
  /-- ... and when it can take no more, all jobs are over, and the workers are gone if the stream
  has ended or they are sent away; unless a job waits for an answer that never comes. -/
  ends : ∀ s, AtRest s c → (∀ j ∈ c.processor.jobs, j.isStranded = false) →
    (∀ j ∈ c.processor.jobs, j.isOver = true) ∧
      (p.streaming = false ∨ s.isCancelled p.token = true → p.isDrained = true)

theorem Kept.poolLaw (h : Kept (workers + 1) token k c v L) (hbalanced : c.processor.Balanced) :
    ∃ p, c.pools[k]? = some p ∧ PoolLaw k c p L := by
  have hv := h.found
  rw [getElem?_views, Option.map_eq_some_iff] at hv
  obtain ⟨p, hp, rfl⟩ := hv
  have hdrained : c.isDrained k = p.isDrained := by rw [isDrained, hp]; rfl
  have hbusy (n i : Nat) (hn : p.view.phases[n]? = some (.busy i)) :
      i < c.processor.jobs.length := by
    rw [← h.length]
    exact (List.getElem?_eq_some_iff.1 (h.busy n i hn)).1
  have hstays (w : Worker) (hw : w ∈ p.workers) (hgone : w.isGone = true) :
      L.dismissed = true ∨ (p.stream = [] ∧ p.streaming = false) := by
    obtain ⟨n, hn⟩ := Array.getElem?_of_mem hw
    cases hphase : w.phase with
    | idle => simp [Worker.isGone, hphase] at hgone
    | busy job => simp [Worker.isGone, hphase] at hgone
    | gone time => exact h.gone n time (by rw [getElem?_phases hn, hphase])
  refine ⟨p, hp, h.stream, h.length, h.handed, ?_, ?_, hstays, ?_, ?_, wellFounded_follows.apply c,
    ?_⟩
  · intro s s' c' l hstep
    exact (stepped_of_step hstep).scene
  · intro hgone ms
    rw [← hdrained] at hgone
    obtain ⟨hclosed, hsettled⟩ := h.settled_follow hgone ms
    refine ⟨hclosed, hsettled, ?_⟩
    intro i hi
    obtain ⟨j, hj, hover⟩ := Processor.isOver_iff.1 ((h.closed hgone).finished i hi)
    rw [hj, getElem?_jobs_moves hj hover ms]
  · -- there is a first worker, and it is gone because the stream has ended
    intro hgone hdismissed
    have hsize : p.workers.size = workers + 1 := by
      have hlength := h.size
      simpa [Pool.view] using hlength
    have hfirst : p.workers[0] ∈ p.workers := Array.getElem_mem _
    rcases hstays _ hfirst (by simpa using Array.all_eq_true.1 hgone 0 (by omega)) with
      hd | ⟨hempty, hended⟩
    · rw [hdismissed] at hd
      cases hd
    · refine ⟨hended, ?_⟩
      calc L.taken
          = L.taken ++ p.stream := by rw [hempty, List.append_nil]
        _ = L.arrived := h.stream.symm
  · intro s htoken
    unfold Crew.dismiss
    rw [hp]
    exact Tokens.isCancelled_cancelAt htoken s.now
  · intro s hrest hstranded
    have hover := hrest.isOver hbalanced hstranded
    refine ⟨hover, ?_⟩
    intro hleave
    rw [p.isDrained_eq]
    refine hrest.isDrained h.found ?_ hleave
    intro n i hn
    have hlt := hbusy n i hn
    exact Processor.isOver_iff.2
      ⟨_, List.getElem?_eq_getElem hlt, hover _ (List.getElem_mem hlt)⟩

/-- The law of worker pools: a pool of some workers begins its work at any time, and anything may
happen after that. -/
theorem pool_law (settings : ConsumerSettings) (registry : Registry) (observers : List String)
    (before : List Move) (s : Scene) (parent : Token) (workers : Nat) (ms : List Move) :
    let c : Crew := Crew.moves { processor := .ofSettings settings registry observers } before
    let spawned := c.move (.spawn s parent (workers + 1))
    ∃ p, (spawned.moves ms).pools[c.pools.length]? = some p ∧
      PoolLaw c.pools.length (spawned.moves ms) p
        (Ledger.follow c.pools.length spawned (.fresh c) ms) := by
  intro c spawned
  obtain ⟨v, h⟩ := (kept_spawn c s parent (workers + 1)).moves ms
  have hbalanced := balanced_moves (c := { processor := .ofSettings settings registry observers })
    (Processor.balanced_ofSettings settings registry observers)
    (before ++ .spawn s parent (workers + 1) :: ms)
  rw [moves, List.foldl_append] at hbalanced
  exact h.poolLaw hbalanced

end MessageBus.Crew
