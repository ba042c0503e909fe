import MessageBus.Proofs.Consumer.Handling
import MessageBus.Proofs.Consumer.Queueing

/-!
# Faults and news in a shift

Faults of the stream and news of closed channels are noise: they change nothing for the deliveries.
`Hushed` relates a shift to one with more noise; whatever happens in the noisy one happens in the
other, but for the noise (`Hushed.after`), and noise may come at any time without a trace
(`Hushed.insert`). Main statement: `queue_law`, the law of a pool as a queue with as many servers as
it has workers.
-/

set_option autoImplicit false

namespace MessageBus

def StreamItem.isDelivery : StreamItem → Bool
  | .delivery _ _ => true
  | .fault => false

/-- A pool whose stream has no faults. -/
def PoolView.hush (v : PoolView) : PoolView :=
  { v with stream := v.stream.filter StreamItem.isDelivery }

namespace PoolView

theorem hush_endStream (v : PoolView) : v.endStream.hush = v.hush.endStream := rfl

theorem hush_setPhase (v : PoolView) (n : Nat) (phase : WorkerPhase) :
    (v.setPhase n phase).hush = v.hush.setPhase n phase := rfl

theorem hush_push (v : PoolView) (item : StreamItem) :
    (v.push item).hush = if item.isDelivery then v.hush.push item else v.hush := by
  unfold push hush
  cases item with
  | delivery d a => cases hs : v.streaming <;> simp [StreamItem.isDelivery, hs]
  | fault => cases hs : v.streaming <;> simp [StreamItem.isDelivery, hs]

theorem hush_rest_of_fault {v : PoolView} {rest : List StreamItem}
    (h : v.stream = .fault :: rest) : v.rest.hush = v.hush := by
  unfold PoolView.rest hush
  rw [h]
  rfl

theorem hush_rest_of_delivery {v : PoolView} {d : Delivery} {a : Acknowledger}
    {rest : List StreamItem} (h : v.stream = .delivery d a :: rest) :
    v.rest.hush = v.hush.rest := by
  unfold PoolView.rest hush
  rw [h]
  rfl

theorem stream_hush_ne_nil {v : PoolView} (h : v.hush.stream ≠ []) : v.stream ≠ [] := by
  intro hnil
  refine h ?_
  unfold hush
  rw [hnil]
  rfl

/-- Where no fault comes first, nothing is left without the faults only if nothing is left. -/
theorem stream_hush_eq_nil {v : PoolView} (h : v.stream.head? ≠ some .fault)
    (hnil : v.hush.stream = []) : v.stream = [] := by
  cases hs : v.stream with
  | nil => rfl
  | cons item rest =>
    rw [hs] at h
    cases item with
    | fault => exact absurd rfl h
    | delivery d a =>
      unfold hush at hnil
      rw [hs] at hnil
      cases hnil

end PoolView

namespace Shift

/-- Whether an event is a fault of a stream, or news of channels. -/
def Event.isNoise : Event → Bool
  | .step (.arrive _ .fault) | .step (.channelClosed _) | .step (.deafen _) => true
  | _ => false

/-- The first shift is like the second, which may have more noise. -/
structure Hushed (quiet noisy : Shift) : Prop where
  scene : noisy.scene = quiet.scene
  processor : noisy.crew.processor = quiet.crew.processor
  arrivals : noisy.arrivals = quiet.arrivals
  views : quiet.crew.views = noisy.crew.views.map PoolView.hush

variable {q h : Shift}

theorem hushed_refl {h : Shift} (hs : ∀ v ∈ h.crew.views, v.hush = v) : Hushed h h where
  scene := rfl
  processor := rfl
  arrivals := rfl
  views := by
    symm
    calc h.crew.views.map PoolView.hush
        = h.crew.views.map id := List.map_congr_left hs
      _ = h.crew.views := List.map_id _

theorem Hushed.found (hq : Hushed q h) {k : Nat} {v : PoolView} (hv : h.crew.views[k]? = some v) :
    q.crew.views[k]? = some v.hush := by
  rw [hq.views, List.getElem?_map, hv]
  rfl

theorem Hushed.exists_found (hq : Hushed q h) {k : Nat} {v : PoolView}
    (hv : q.crew.views[k]? = some v) : ∃ w, h.crew.views[k]? = some w ∧ v = w.hush := by
  rw [hq.views, List.getElem?_map] at hv
  obtain ⟨w, hw, rfl⟩ := Option.map_eq_some_iff.1 hv
  exact ⟨w, hw, rfl⟩

theorem Hushed.isStreaming (hq : Hushed q h) (k : Nat) :
    h.crew.isStreaming k = q.crew.isStreaming k := by
  cases hv : h.crew.views[k]? with
  | some v => rw [Crew.isStreaming_eq hv, Crew.isStreaming_eq (hq.found hv)]; rfl
  | none =>
    have hv' : q.crew.views[k]? = none := by rw [hq.views, List.getElem?_map, hv]; rfl
    rw [Crew.getElem?_views, Option.map_eq_none_iff] at hv hv'
    rw [Crew.isStreaming, Crew.isStreaming, hv, hv']

theorem Hushed.arrival (hq : Hushed q h) (l : Crew.Label) : h.arrival l = q.arrival l := by
  unfold Shift.arrival now
  rw [hq.isStreaming, hq.scene]

/-! ## Steps without noise -/

theorem take_of_step {l : Crew.Label} {s : Scene} {c : Crew} (hl : l.dismisses = false)
    (hstep : h.crew.step h.scene l = some (s, c)) :
    h.take l = ⟨s, c, h.arrivals ++ h.arrival l⟩ := by
  simp [take, hl, hstep]

theorem take_of_none {l : Crew.Label} (hstep : h.crew.step h.scene l = none) : h.take l = h := by
  simp [take, hstep]

/-- Both shifts take a step, or neither does. -/
theorem Hushed.of_steps (hq : Hushed q h) {l : Crew.Label}
    (hboth : ∀ s c, h.crew.step h.scene l = some (s, c) → ∃ c',
      q.crew.step q.scene l = some (s, c') ∧ c.processor = c'.processor ∧
        c'.views = c.views.map PoolView.hush)
    (hneither : h.crew.step h.scene l = none → q.crew.step q.scene l = none) :
    Hushed (q.take l) (h.take l) := by
  cases hl : l.dismisses with
  | true =>
    unfold take
    rw [hl]
    exact hq
  | false =>
    cases hstep : h.crew.step h.scene l with
    | none => rwa [take_of_none hstep, take_of_none (hneither hstep)]
    | some r =>
      obtain ⟨s, c⟩ := r
      obtain ⟨c', hstep', hproc, hviews⟩ := hboth s c hstep
      rw [take_of_step hl hstep, take_of_step hl hstep']
      exact ⟨rfl, hproc, by rw [hq.arrivals, hq.arrival], hviews⟩

/-- A step that only the noisy shift takes, and that changes nothing but its noise. -/
theorem Hushed.of_noise (hq : Hushed q h) {l : Crew.Label}
    (hstep : ∀ s c, h.crew.step h.scene l = some (s, c) → s = h.scene ∧
      c.processor = h.crew.processor ∧ c.views.map PoolView.hush = h.crew.views.map PoolView.hush)
    (harrival : h.arrival l = []) : Hushed q (h.take l) := by
  rcases h.take_cases l with hsame | ⟨s, c, -, hs, htake⟩
  · rwa [hsame]
  · obtain ⟨rfl, hproc, hviews⟩ := hstep s c hs
    rw [htake]
    exact ⟨hq.scene, hproc.trans hq.processor, by rw [harrival, List.append_nil, hq.arrivals],
      hq.views.trans hviews.symm⟩

/-- Whether a fault comes next for a worker that would take what comes, or leave. -/
def Faulty (h : Shift) (l : Crew.Label) : Prop :=
  ∃ k n v, (l = .pull k n ∨ l = .finish k n) ∧ h.crew.views[k]? = some v ∧
    v.phases[n]? = some .idle ∧ v.stream.head? = some .fault

theorem serves_of_isNews {l : Crew.Label} (hl : l.isNews = true) : l.serves = false := by
  cases l <;> first | rfl | cases hl

section

variable {l : Crew.Label} {s s' : Scene} {c c' : Crew}

/-- What can be done for a delivery without the noise can be done with it, where no fault comes
next, ... -/
theorem Hushed.step_ne_none (hq : Hushed q h) (hl : l.serves = true) (hfaulty : ¬h.Faulty l)
    (hstep : q.crew.step q.scene l ≠ none) : h.crew.step h.scene l ≠ none := by
  obtain ⟨⟨s, c⟩, hsome⟩ := Option.ne_none_iff_exists'.1 hstep
  cases Crew.stepped_of_step hsome with
  | grant hrun => simp [Crew.step, hq.processor, hq.scene, hrun]
  | resume hrun => simp [Crew.step, hq.processor, hq.scene, hrun]
  | rest hv hbusy hover =>
    obtain ⟨w, hw, rfl⟩ := hq.exists_found hv
    rw [← hq.processor] at hover
    exact Crew.step_rest_ne_none hw hbusy hover
  | finish hv hidle hstream hended =>
    obtain ⟨w, hw, rfl⟩ := hq.exists_found hv
    have hempty := PoolView.stream_hush_eq_nil
      (fun hfault => hfaulty ⟨_, _, w, .inr rfl, hw, hidle, hfault⟩) hstream
    exact Crew.step_finish_ne_none hw hidle hempty hended
  | pullFault hv hidle hstream | pull hv hidle hstream =>
    obtain ⟨w, hw, rfl⟩ := hq.exists_found hv
    exact Crew.step_pull_ne_none hw hidle (PoolView.stream_hush_ne_nil (by rw [hstream]; simp))
  | leave | dismiss | arrive | endStream => cases hl
  | news hnews =>
    rw [serves_of_isNews hnews] at hl
    cases hl

/-- ... and the other way round. -/
theorem Hushed.step_ne_none_of_noisy (hq : Hushed q h) (hl : l.serves = true)
    (hfaulty : ¬h.Faulty l) (hstep : h.crew.step h.scene l ≠ none) :
    q.crew.step q.scene l ≠ none := by
  obtain ⟨⟨s, c⟩, hsome⟩ := Option.ne_none_iff_exists'.1 hstep
  cases Crew.stepped_of_step hsome with
  | grant hrun => simp [Crew.step, ← hq.processor, ← hq.scene, hrun]
  | resume hrun => simp [Crew.step, ← hq.processor, ← hq.scene, hrun]
  | rest hv hbusy hover =>
    rw [hq.processor] at hover
    exact Crew.step_rest_ne_none (hq.found hv) hbusy hover
  | finish hv hidle hstream hended =>
    refine Crew.step_finish_ne_none (hq.found hv) hidle ?_ hended
    rw [PoolView.hush, hstream]
    rfl
  | pullFault hv hidle hstream =>
    exact absurd ⟨_, _, _, .inl rfl, hv, hidle, by rw [hstream]; rfl⟩ hfaulty
  | pull hv hidle hstream =>
    refine Crew.step_pull_ne_none (hq.found hv) hidle ?_
    rw [PoolView.hush, hstream]
    exact List.cons_ne_nil _ _
  | leave | dismiss | arrive | endStream => cases hl
  | news hnews =>
    rw [serves_of_isNews hnews] at hl
    cases hl

/-- The two crews after a job has gone on in both shifts. -/
theorem Hushed.ran (hq : Hushed q h) {r : Option (Scene × Processor)}
    (hrun : r = some (s, c.processor)) (hrun' : r = some (s', c'.processor))
    (hviews : c.views = h.crew.views) (hviews' : c'.views = q.crew.views) :
    s' = s ∧ c.processor = c'.processor ∧ c'.views = c.views.map PoolView.hush := by
  obtain ⟨hscene, hproc⟩ := Prod.mk.inj (Option.some.inj (hrun.symm.trans hrun'))
  exact ⟨hscene.symm, hproc, by rw [hviews', hviews, hq.views]⟩

/-- The two crews after a worker has gone on to another phase in both shifts. -/
theorem Hushed.worked (hq : Hushed q h) {k n : Nat} {v v' : PoolView} {phase : WorkerPhase}
    (hv : h.crew.views[k]? = some v) (hv' : q.crew.views[k]? = some v')
    (hproc : c.processor = h.crew.processor) (hproc' : c'.processor = q.crew.processor)
    (hviews : c.views = h.crew.views.set k (v.setPhase n phase))
    (hviews' : c'.views = q.crew.views.set k (v'.setPhase n phase)) :
    c.processor = c'.processor ∧ c'.views = c.views.map PoolView.hush := by
  obtain rfl := Option.some.inj ((hq.found hv).symm.trans hv')
  refine ⟨by rw [hproc, hproc', hq.processor], ?_⟩
  rw [hviews', hviews, List.map_set, ← hq.views]
  rfl

/-- The two crews after a worker has taken a delivery in both shifts. -/
theorem Hushed.pulled (hq : Hushed q h) {k n : Nat} {v v' : PoolView} {d d' : Delivery}
    {a a' : Acknowledger} {rest rest' : List StreamItem} (hv : h.crew.views[k]? = some v)
    (hv' : q.crew.views[k]? = some v') (hstream : v.stream = .delivery d a :: rest)
    (hstream' : v'.stream = .delivery d' a' :: rest')
    (hproc : c.processor = (h.crew.processor.request d a v.token).1)
    (hproc' : c'.processor = (q.crew.processor.request d' a' v'.token).1)
    (hviews : c.views =
      h.crew.views.set k (v.rest.setPhase n (.busy h.crew.processor.jobs.length)))
    (hviews' : c'.views =
      q.crew.views.set k (v'.rest.setPhase n (.busy q.crew.processor.jobs.length))) :
    c.processor = c'.processor ∧ c'.views = c.views.map PoolView.hush := by
  obtain rfl := Option.some.inj ((hq.found hv).symm.trans hv')
  rw [PoolView.hush, hstream] at hstream'
  obtain ⟨hitem, -⟩ := List.cons.inj hstream'
  obtain ⟨rfl, rfl⟩ := StreamItem.delivery.inj hitem
  constructor
  · rw [hproc, hproc', hq.processor]
    rfl
  · rw [hviews', hviews, List.map_set, ← hq.views, PoolView.hush_setPhase,
      PoolView.hush_rest_of_delivery hstream, hq.processor]

/-- A step for a delivery that both shifts take has the same outcome but for the noise. -/
theorem Hushed.stepped (hq : Hushed q h) (hl : l.serves = true) (hfaulty : ¬h.Faulty l)
    (hs : h.crew.Stepped h.scene l s c) (hs' : q.crew.Stepped q.scene l s' c') :
    s' = s ∧ c.processor = c'.processor ∧ c'.views = c.views.map PoolView.hush := by
  cases hs with
  | grant hrun hviews =>
    cases hs' with
    | grant hrun' hviews' =>
      rw [hq.processor, hq.scene] at hrun
      exact hq.ran hrun hrun' hviews hviews'
    | news hnews => cases hnews
  | resume hrun hviews =>
    cases hs' with
    | resume hrun' hviews' =>
      rw [hq.processor, hq.scene] at hrun
      exact hq.ran hrun hrun' hviews hviews'
    | news hnews => cases hnews
  | rest hv _ _ hproc hviews =>
    cases hs' with
    | rest hv' _ _ hproc' hviews' =>
      exact ⟨hq.scene.symm, hq.worked hv hv' hproc hproc' hviews hviews'⟩
    | news hnews => cases hnews
  | finish hv _ _ _ hproc hviews =>
    cases hs' with
    | finish hv' _ _ _ hproc' hviews' =>
      rw [hq.scene] at hviews
      exact ⟨hq.scene.symm, hq.worked hv hv' hproc hproc' hviews hviews'⟩
    | news hnews => cases hnews
  | pullFault hv hidle hstream =>
    exact absurd ⟨_, _, _, .inl rfl, hv, hidle, by rw [hstream]; rfl⟩ hfaulty
  | pull hv hidle hstream hproc hviews =>
    cases hs' with
    | pull hv' _ hstream' hproc' hviews' =>
      exact ⟨hq.scene.symm, hq.pulled hv hv' hstream hstream' hproc hproc' hviews hviews'⟩
    | pullFault hv' _ hstream' =>
      obtain rfl := Option.some.inj ((hq.found hv).symm.trans hv')
      rw [PoolView.hush, hstream] at hstream'
      cases hstream'
    | news hnews => cases hnews
  | leave | dismiss | arrive | endStream => cases hl
  | news hnews =>
    rw [serves_of_isNews hnews] at hl
    cases hl

/-- So both shifts serve the deliveries in the same way. -/
theorem Hushed.take_of_serves (hq : Hushed q h) (hl : l.serves = true) (hfaulty : ¬h.Faulty l) :
    Hushed (q.take l) (h.take l) := by
  refine hq.of_steps (fun s c hstep => ?_) fun hnone => ?_
  · obtain ⟨⟨s', c'⟩, hstep'⟩ := Option.ne_none_iff_exists'.1
      (hq.step_ne_none_of_noisy hl hfaulty (by rw [hstep]; simp))
    obtain ⟨rfl, hproc, hviews⟩ := hq.stepped hl hfaulty (Crew.stepped_of_step hstep)
      (Crew.stepped_of_step hstep')
    exact ⟨c', hstep', hproc, hviews⟩
  · by_contra hsome
    exact hq.step_ne_none hl hfaulty hsome hnone

/-- What happens to a stream, faults apart, happens to it in both shifts. -/
theorem Hushed.take_modifyPool (hq : Hushed q h) {k : Nat} {f : Pool → Pool}
    {u : PoolView → PoolView} (hl : l.dismisses = false)
    (hstep : ∀ (s : Scene) (c : Crew), c.step s l = some (s, c.modifyPool k f))
    (hview : ∀ p, (f p).view = u p.view) (hhush : ∀ v, (u v).hush = u v.hush) :
    Hushed (q.take l) (h.take l) := by
  rw [take_of_step hl (hstep _ _), take_of_step hl (hstep _ _)]
  refine ⟨hq.scene, hq.processor, by rw [hq.arrivals, hq.arrival], ?_⟩
  rw [Crew.views_modifyPool hview, Crew.views_modifyPool hview, hq.views]
  exact (map_modify hhush _ _).symm

/-- To read news of channels changes nothing in a shift but the news. -/
theorem same_take_heed (h : Shift) (k n : Nat) :
    (h.take (.heed k n)).scene = h.scene ∧
      (h.take (.heed k n)).crew.processor = h.crew.processor ∧
      (h.take (.heed k n)).arrivals = h.arrivals ∧
      (h.take (.heed k n)).crew.views = h.crew.views := by
  rcases h.take_cases (.heed k n) with hsame | ⟨s, c, -, hstep, htake⟩
  · rw [hsame]
    exact ⟨rfl, rfl, rfl, rfl⟩
  · rw [htake, arrival_of_ne (by simp), List.append_nil]
    cases Crew.stepped_of_step hstep with
    | news _ hproc hviews => exact ⟨rfl, hproc, rfl, hviews⟩

theorem Hushed.take_heed (hq : Hushed q h) (k n : Nat) :
    Hushed (q.take (.heed k n)) (h.take (.heed k n)) := by
  obtain ⟨hscene, hproc, harrivals, hviews⟩ := h.same_take_heed k n
  obtain ⟨hscene', hproc', harrivals', hviews'⟩ := q.same_take_heed k n
  exact ⟨by rw [hscene, hscene', hq.scene], by rw [hproc, hproc', hq.processor],
    by rw [harrivals, harrivals', hq.arrivals], by rw [hviews, hviews', hq.views]⟩

/-- Where no fault comes next, both shifts do the same. -/
theorem Hushed.take (hq : Hushed q h) (hl : (Event.step l).isNoise = false)
    (hfaulty : ¬h.Faulty l) : Hushed (q.take l) (h.take l) := by
  cases l with
  | grant | resume | rest | finish | pull => exact hq.take_of_serves rfl hfaulty
  | arrive k item =>
    cases item with
    | fault => cases hl
    | delivery d a =>
      exact hq.take_modifyPool (u := (·.push (.delivery d a))) rfl (fun _ _ => rfl)
        (fun p => p.view_push _) fun v => v.hush_push _
  | endStream k =>
    exact hq.take_modifyPool rfl (fun _ _ => rfl) (fun _ => rfl) PoolView.hush_endStream
  | channelClosed | deafen => cases hl
  | leave | dismiss => exact hq
  | heed k n => exact hq.take_heed k n

end

/-! ## The clock -/

/-- Where something can be done without the noise, something can be done with it. -/
theorem Hushed.isReady (hq : Hushed q h) (hready : q.crew.isReady q.scene = true) :
    h.crew.isReady h.scene = true := by
  obtain ⟨l, hl, hstep⟩ := exists_step_of_isReady hready
  by_cases hfaulty : h.Faulty l
  · -- the fault that comes next can be taken
    obtain ⟨k, n, v, -, hv, hidle, hfault⟩ := hfaulty
    refine isReady_of_step (l := .pull k n) rfl (Crew.step_pull_ne_none hv hidle ?_)
    rintro hnil
    rw [hnil] at hfault
    cases hfault
  · exact isReady_of_step hl (hq.step_ne_none hl hfaulty hstep)

/-- No worker that is idle has a fault before it. -/
def Drained (h : Shift) : Prop := ∀ l, ¬h.Faulty l

/-- Where no worker has a fault before it, the noise gives nothing to do. -/
theorem Hushed.isReady_of_drained (hq : Hushed q h) (hd : h.Drained)
    (hready : h.crew.isReady h.scene = true) : q.crew.isReady q.scene = true := by
  obtain ⟨l, hl, hstep⟩ := exists_step_of_isReady hready
  exact isReady_of_step hl (hq.step_ne_none_of_noisy hl (hd l) hstep)

/-! ## Histories with more noise and with less -/

/-- Nothing comes of noise, nor of a worker that takes a fault. -/
theorem Hushed.noise (hq : Hushed q h) {l : Crew.Label}
    (hl : (Event.step l).isNoise = true ∨ h.Faulty l) : Hushed q (h.take l) := by
  rcases hl with hl | ⟨k, n, v, rfl | rfl, hv, hidle, hfault⟩
  · refine hq.of_noise (fun s c hstep => ?_) ?_
    · cases Crew.stepped_of_step hstep with
      | news hnews hproc hviews => exact ⟨rfl, hproc, by rw [hviews]⟩
      | @arrive k item _ hproc hviews =>
        cases item with
        | delivery d a => cases hl
        | fault =>
          refine ⟨rfl, hproc, ?_⟩
          have hsame : ∀ v : PoolView, (v.push .fault).hush = v.hush := fun v => v.hush_push .fault
          calc c.views.map PoolView.hush
              = (h.crew.views.modify k (·.push .fault)).map PoolView.hush := by rw [hviews]
            _ = (h.crew.views.map PoolView.hush).modify k id := map_modify hsame _ k
            _ = h.crew.views.map PoolView.hush := by rw [List.modify_id]
      | _ => cases hl
    · refine arrival_of_ne fun d a heq => ?_
      subst heq
      cases hl
  · refine hq.of_noise (fun s c hstep => ?_) (arrival_of_ne (by simp))
    cases Crew.stepped_of_step hstep with
    | pullFault hv' _ hstream hproc hviews =>
      refine ⟨rfl, hproc, ?_⟩
      rw [hviews]
      exact map_set_of_getElem? hv' (PoolView.hush_rest_of_fault hstream)
    | pull hv' _ hstream =>
      obtain rfl := Option.some.inj (hv.symm.trans hv')
      rw [hstream] at hfault
      cases hfault
    | news hnews => cases hnews
  · refine hq.of_noise (fun s c hstep => ?_) (arrival_of_ne (by simp))
    cases Crew.stepped_of_step hstep with
    | finish hv' _ hstream =>
      obtain rfl := Option.some.inj (hv.symm.trans hv')
      rw [hstream] at hfault
      cases hfault
    | news hnews => cases hnews

/-- An event other than a step does the same in both shifts, where time goes by in both. -/
theorem Hushed.next_of_ne (hq : Hushed q h) {e : Event} (hstep : ∀ l, e ≠ .step l)
    (htick : e = .tick → h.crew.isReady h.scene = q.crew.isReady q.scene) :
    Hushed (q.next e) (h.next e) := by
  cases e with
  | step l => exact absurd rfl (hstep l)
  | tick =>
    rw [Shift.next, Shift.next, htick rfl]
    split
    · exact hq
    · exact ⟨by rw [hq.scene], hq.processor, hq.arrivals, hq.views⟩
  | elsewhere s =>
    refine ⟨?_, hq.processor, hq.arrivals, hq.views⟩
    rw [Shift.next, Shift.next, now, now, hq.scene]
  | connectHandler handler =>
    exact ⟨hq.scene, by rw [Shift.next, Shift.next, hq.processor], hq.arrivals, hq.views⟩
  | addObserver name =>
    exact ⟨hq.scene, by rw [Shift.next, Shift.next, hq.processor], hq.arrivals, hq.views⟩

/-- What happens with the noise happens without it, or nothing comes of it. -/
theorem Hushed.next (hq : Hushed q h) (e : Event) :
    Hushed q (h.next e) ∨ (e.isNoise = false ∧ Hushed (q.next e) (h.next e)) := by
  cases e with
  | step l =>
    by_cases hl : (Event.step l).isNoise = true ∨ h.Faulty l
    · exact .inl (hq.noise hl)
    · rw [not_or, Bool.not_eq_true] at hl
      exact .inr ⟨hl.1, hq.take hl.1 hl.2⟩
  | tick =>
    by_cases hready : h.crew.isReady h.scene = true
    · rw [Shift.next, if_pos hready]
      exact .inl hq
    · refine .inr ⟨rfl, hq.next_of_ne (by simp) fun _ => ?_⟩
      have hquiet : ¬q.crew.isReady q.scene = true := fun h => hready (hq.isReady h)
      rw [Bool.eq_false_iff.2 hready, Bool.eq_false_iff.2 hquiet]
  | elsewhere s => exact .inr ⟨rfl, hq.next_of_ne (by simp) (by simp)⟩
  | connectHandler handler => exact .inr ⟨rfl, hq.next_of_ne (by simp) (by simp)⟩
  | addObserver name => exact .inr ⟨rfl, hq.next_of_ne (by simp) (by simp)⟩

/-- Whatever happens in a noisy shift, the same happens without the noise: some of its events, none
of them noise, lead to the same scene, the same jobs and the same deliveries on the stream. -/
theorem Hushed.after (hq : Hushed q h) (es : List Event) :
    ∃ quiet, quiet.Sublist es ∧ (∀ e ∈ quiet, e.isNoise = false) ∧
      Hushed (q.after quiet) (h.after es) := by
  induction es generalizing q h with
  | nil => exact ⟨[], .slnil, by simp, hq⟩
  | cons e es ih =>
    rcases hq.next e with hsame | ⟨he, hboth⟩
    · obtain ⟨quiet, hsub, hquiet, hafter⟩ := ih hsame
      exact ⟨quiet, hsub.cons e, hquiet, hafter⟩
    · obtain ⟨quiet, hsub, hquiet, hafter⟩ := ih hboth
      exact ⟨e :: quiet, hsub.cons_cons e, List.forall_mem_cons.2 ⟨he, hquiet⟩, hafter⟩

/-- The second history is the first one, but workers take more from the stream. -/
inductive Busier : List Event → List Event → Prop where
  | nil : Busier [] []
  | same {es es' : List Event} (e : Event) (h : Busier es es') : Busier (e :: es) (e :: es')
  | pull {es es' : List Event} (k n : Nat) (h : Busier es es') :
      Busier es (.step (.pull k n) :: es')

theorem take_pull_of_faulty {k n : Nat} {v : PoolView} (hv : h.crew.views[k]? = some v)
    (hidle : v.phases[n]? = some .idle) (hfault : v.stream.head? = some .fault) :
    (h.take (.pull k n)).crew.untaken < h.crew.untaken := by
  have hstream : v.stream ≠ [] := by
    intro hnil
    rw [hnil] at hfault
    cases hfault
  obtain ⟨⟨s, c⟩, hstep⟩ := Option.ne_none_iff_exists'.1
    (Crew.step_pull_ne_none (s := h.scene) hv hidle hstream)
  rw [take_of_step rfl hstep]
  have hfewer {w w' : PoolView} (hw : h.crew.views[k]? = some w)
      (hviews : c.views = h.crew.views.set k w') (hw' : w'.stream.length < w.stream.length) :
      c.untaken < h.crew.untaken := by
    have huntaken := Crew.untaken_set hw hviews
    omega
  cases Crew.stepped_of_step hstep with
  | pullFault hw _ hfirst _ hviews =>
    exact hfewer hw hviews (by rw [PoolView.rest, hfirst]; simp)
  | pull hw _ hfirst _ hviews =>
    exact hfewer hw hviews (by rw [PoolView.setPhase, PoolView.rest, hfirst]; simp)
  | news hnews => cases hnews

/-- Workers can take all the faults that are before them. -/
theorem Hushed.drain (hq : Hushed q h) :
    ∃ pulls : List Event, (∀ e ∈ pulls, ∃ k n, e = .step (.pull k n)) ∧ (h.after pulls).Drained ∧
      Hushed q (h.after pulls) := by
  induction hn : h.crew.untaken using Nat.strongRecOn generalizing h with
  | ind n ih =>
    by_cases hd : h.Drained
    · exact ⟨[], by simp, hd, hq⟩
    obtain ⟨l, hl⟩ := not_forall.1 hd
    obtain ⟨k, m, v, -, hv, hidle, hfault⟩ := not_not.1 hl
    have hfewer := take_pull_of_faulty hv hidle hfault
    have hnoise := hq.noise (.inr ⟨k, m, v, .inl rfl, hv, hidle, hfault⟩)
    obtain ⟨pulls, hpulls, hdrained, hafter⟩ := ih _ (hn ▸ hfewer) hnoise rfl
    exact ⟨.step (.pull k m) :: pulls, List.forall_mem_cons.2 ⟨⟨k, m, rfl⟩, hpulls⟩, hdrained,
      hafter⟩

theorem Busier.append {pulls es es' : List Event}
    (hpulls : ∀ e ∈ pulls, ∃ k n, e = .step (.pull k n)) (hb : Busier es es') :
    Busier es (pulls ++ es') := by
  induction pulls with
  | nil => exact hb
  | cons e rest ih =>
    obtain ⟨⟨k, n, rfl⟩, hrest⟩ := List.forall_mem_cons.1 hpulls
    exact .pull k n (ih hrest)

theorem Hushed.next_of_drained (hq : Hushed q h) (hd : h.Drained) {e : Event}
    (he : e.isNoise = false) : Hushed (q.next e) (h.next e) := by
  by_cases hstep : ∃ l, e = .step l
  · obtain ⟨l, rfl⟩ := hstep
    exact hq.take he (hd l)
  · refine hq.next_of_ne (not_exists.1 hstep) fun _ => ?_
    exact Bool.eq_iff_iff.2 ⟨hq.isReady_of_drained hd, hq.isReady⟩

/-- Noise may come at any time: without it the same happens, as long as with it the workers take the
faults that come. -/
theorem Hushed.insert (hq : Hushed q h) (es : List Event) :
    ∃ noisy, Busier es noisy ∧ Hushed (q.after (es.filter (!·.isNoise))) (h.after noisy) := by
  induction es generalizing q h with
  | nil => exact ⟨[], .nil, hq⟩
  | cons e es ih =>
    cases he : e.isNoise with
    | true =>
      have hsame : Hushed q (h.next e) := by
        rcases hq.next e with hsame | ⟨hquiet, -⟩
        · exact hsame
        · rw [he] at hquiet
          cases hquiet
      obtain ⟨noisy, hbusier, hafter⟩ := ih hsame
      refine ⟨e :: noisy, .same e hbusier, ?_⟩
      rwa [List.filter_cons_of_neg (by simp [he])]
    | false =>
      obtain ⟨pulls, hpulls, hdrained, hdrain⟩ := hq.drain
      obtain ⟨noisy, hbusier, hafter⟩ := ih (hdrain.next_of_drained hdrained he)
      refine ⟨pulls ++ e :: noisy, (hbusier.same e).append hpulls, ?_⟩
      have hsplit : h.after (pulls ++ e :: noisy) = ((h.after pulls).next e).after noisy :=
        List.foldl_append
      rw [List.filter_cons_of_pos (by simp [he]), hsplit]
      exact hafter

/-! ## The law -/

/-- To the processor a shift is a history. -/
theorem exists_moves_next (h : Shift) (e : Event) :
    ∃ ms, (h.next e).crew.processor = h.crew.processor.moves ms := by
  cases e with
  | step l =>
    rcases h.take_cases l with hsame | ⟨s, c, -, hstep, htake⟩
    · exact ⟨[], by rw [Shift.next, hsame]; rfl⟩
    · rw [Shift.next, htake]
      exact (Crew.stepped_of_step hstep).processor
  | tick =>
    refine ⟨[], ?_⟩
    rw [Shift.next]
    split <;> rfl
  | elsewhere s => exact ⟨[], rfl⟩
  | connectHandler handler => exact ⟨[.connectHandler handler], rfl⟩
  | addObserver name => exact ⟨[.addObserver name], rfl⟩

theorem exists_moves (h : Shift) (es : List Event) :
    ∃ ms, (h.after es).crew.processor = h.crew.processor.moves ms :=
  Processor.exists_moves_foldl (fun h : Shift => h.crew.processor) exists_moves_next h es

/-- The law of a shift with so many workers, which has come about by some events. -/
structure QueueLaw (workers : Nat) (first : Shift) (es : List Event) (h : Shift) : Prop where
  /-- The deliveries that are handled, or wait for that, are the first that came, in their order. -/
  order : h.crew.processor.tickets <+: h.arrivals.map Prod.snd
  /-- A delivery begins when it has come, the one before it has begun, and fewer of those before it
  are unfinished than there are workers, whichever of these is the last. -/
  begins : ∀ k b, h.begun k = some b → ∃ a before free, h.arrived k = some a ∧
    h.begunBefore k = some before ∧ IsLeast {t | h.ahead k t < workers} free ∧
    b = max (max a before) free
  /-- From then on it has a permit, and it does something at once: whoever has done nothing yet got
  the permit just now. -/
  atOnce : ∀ j ∈ h.crew.processor.jobs, ∀ since, j.phase = .admitted since → since = h.now
  /-- And it has begun, if that moment has come and nothing is left to do. -/
  begun : h.crew.isReady h.scene = false → ∀ k a before free, h.arrived k = some a →
    h.begunBefore k = some before → h.ahead k free < workers →
    max (max a before) free ≤ h.now → ∃ b, h.begun k = some b
  /-- A single worker begins with a delivery after the one before is finished. -/
  single : workers = 1 → ∀ k b, h.begun (k + 1) = some b → ∃ f ≤ b, h.finished k = some f
  /-- A delivery that is finished has been settled, by the law of settlement. -/
  settled : ∀ k f, h.finished k = some f → ∃ (j : Job) (result : Outcome) (handlers : List Handler)
    (es : List Turn), h.crew.processor.jobs[k]? = some j ∧ j.result? = some (result, f) ∧
    SettlementLaw { h.crew.processor with handlers } j.delivery es result
  /-- In another shift with the same deliveries they begin at the same times. -/
  schedule : h.crew.isReady h.scene = false → ∀ settings registry observers s parent es',
    settings.concurrencyLimit.toNat = workers →
    let h' := (start settings registry observers s parent).after es'
    h'.crew.isReady h'.scene = false → SameLoad h h' →
    ∀ k b, b ≤ h.now → b ≤ h'.now → (h.begun k = some b ↔ h'.begun k = some b)
  /-- Without the faults and the news of closed channels the same happens, ... -/
  quiet : ∃ fewer, fewer.Sublist es ∧ (∀ e ∈ fewer, e.isNoise = false) ∧
    Hushed (first.after fewer) h
  /-- ... and wherever some of these are inserted, the same can happen. -/
  noisy : ∀ more, more.filter (!·.isNoise) = es →
    ∃ busier, Busier more busier ∧ Hushed h (first.after busier)

theorem hushed_start (settings : ConsumerSettings) (registry : Registry) (observers : List String)
    (s : Scene) (parent : Token) :
    Hushed (start settings registry observers s parent)
      (start settings registry observers s parent) := by
  refine hushed_refl fun v hv => ?_
  obtain rfl := List.mem_singleton.1 hv
  rw [Pool.view_spawn]
  rfl

theorem settled_of_finished {settings : ConsumerSettings} {registry : Registry}
    {observers : List String} {s : Scene} {parent : Token} {es : List Event} {k f : Nat}
    (hf : ((start settings registry observers s parent).after es).finished k = some f) :
    ∃ (j : Job) (result : Outcome) (handlers : List Handler) (turns : List Turn),
      ((start settings registry observers s parent).after es).crew.processor.jobs[k]? = some j ∧
      j.result? = some (result, f) ∧
      SettlementLaw
        { ((start settings registry observers s parent).after es).crew.processor with handlers }
        j.delivery turns result := by
  obtain ⟨j, hj, hfinished⟩ := Option.bind_eq_some_iff.1 hf
  obtain ⟨result, hresult⟩ : ∃ result, j.result? = some (result, f) := by
    unfold Job.finished? at hfinished
    cases hphase : j.phase with
    | waiting | admitted | running => simp [hphase] at hfinished
    | ended since finish result =>
      obtain rfl : finish = f := by simpa [hphase] using hfinished
      exact ⟨result, by simp [Job.result?, hphase]⟩
  obtain ⟨ms, hms⟩ := (start settings registry observers s parent).exists_moves es
  have hmem := List.mem_of_getElem? hj
  rw [hms] at hmem
  obtain ⟨handlers, turns, hlaw⟩ :=
    Processor.settlementLaw_of_result? settings registry observers ms hmem hresult
  refine ⟨j, result, handlers, turns, hj, hresult, ?_⟩
  rw [hms]
  exact hlaw

/-- Every shift is a queue with as many servers as it has workers, whatever comes between the
deliveries. -/
theorem queue_law (settings : ConsumerSettings) (registry : Registry) (observers : List String)
    (s : Scene) (parent : Token) (es : List Event) :
    QueueLaw settings.concurrencyLimit.toNat (start settings registry observers s parent) es
      ((start settings registry observers s parent).after es) := by
  obtain ⟨v, hm⟩ := manned_after settings registry observers s parent es
  have ht := (timely_start settings registry observers s parent).after
    (manned_start settings registry observers s parent) es
  constructor
  case order => exact ⟨_, hm.arrived.symm⟩
  case begins => exact fun k b hb => ht.begins hb
  case atOnce => exact punctual_after settings registry observers s parent es
  case begun =>
    intro hidle k a before free ha hbefore hfree hnow
    exact ht.begun_of_le hm hidle ha hbefore hfree hnow
  case single =>
    intro hone k b hb
    have hroom := (ht.due (k + 1) b hb).room
    rw [hone, Nat.lt_one_iff, ahead, List.countP_eq_zero] at hroom
    have hk := hroom k (List.mem_range.2 (Nat.lt_succ_self k))
    simp only [Bool.not_eq_true', Bool.not_eq_false] at hk
    obtain ⟨f, hf, hfb⟩ := (Option.any_eq_true ..).1 hk
    exact ⟨f, of_decide_eq_true hfb, hf⟩
  case settled => exact fun k f hf => settled_of_finished hf
  case schedule =>
    intro hidle settings' registry' obs' s' parent' es' hworkers h' hidle' hload k b hnow hnow'
    obtain ⟨v', hm'⟩ := manned_after settings' registry' obs' s' parent' es'
    have ht' := (timely_start settings' registry' obs' s' parent').after
      (manned_start settings' registry' obs' s' parent') es'
    rw [hworkers] at hm' ht'
    exact ht.begun_eq hm hidle ht' hm' hidle' hload k b hnow hnow'
  case quiet => exact (hushed_start settings registry observers s parent).after es
  case noisy =>
    intro more hmore
    obtain ⟨busier, hbusier, hafter⟩ :=
      (hushed_start settings registry observers s parent).insert more
    rw [hmore] at hafter
    exact ⟨busier, hbusier, hafter⟩

end Shift

end MessageBus
