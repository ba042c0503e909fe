import MessageBus.Proofs.Consumer.Admission
import MessageBus.Proofs.Consumer.Settlement

/-!
# What becomes of every job

The work of a job is done in pieces, between which other jobs and the world go on. `Faithful` says
that a job is nevertheless somewhere on a course of its work, with the handlers that were there when
it began; it is kept by every move of a processor. So the law of settlement holds for every
job that is over, whatever happened while it was under way (`settlementLaw_of_result?`).
-/

set_option autoImplicit false

namespace MessageBus.Processor

/-- A job has done some of its work, or all of it, as it was with some handlers. -/
def Faithful (p : Processor) (j : Job) : Prop :=
  match j.phase with
  | .waiting | .admitted _ => True
  | .running _ left => ∃ handlers, left.Left (work { p with handlers } j)
  | .ended _ _ result => ∃ handlers es, (work { p with handlers } j).Course es result

variable {p p' : Processor} {s s' : Scene} {j j' : Job}

theorem faithful_settled {handlers : List Handler} {left : Parked Outcome}
    (h : left.Left (work { p with handlers } j)) (since : Nat) (s : Scene) :
    Faithful p (j.settled since left s) := by
  cases left with
  | ended result =>
    obtain ⟨es, hes⟩ := h
    exact ⟨handlers, es, hes⟩
  | stranded => exact ⟨handlers, h⟩
  | sleeping time rest => exact ⟨handlers, h⟩
  | backingOff started time token rest => exact ⟨handlers, h⟩

/-- What a job has left to do is what comes after some part of its work. -/
theorem Due.part {since : Nat} {rest : Task Outcome} (h : p.Due s j since rest)
    (hj : p.Faithful j) : ∃ handlers es, (work { p with handlers } j).Part es rest := by
  unfold Faithful at hj
  cases h with
  | begins hphase => exact ⟨p.handlers, [], Task.part_nil _⟩
  | wakes hphase hwake =>
    rw [hphase] at hj
    obtain ⟨handlers, hparked⟩ := hj
    exact ⟨handlers, hparked.wake hwake⟩

theorem Onward.faithful (h : p.Onward s j s' j') (hj : p.Faithful j) : p.Faithful j' := by
  cases h with
  | admitted hwaiting => trivial
  | resumed hdue hwork =>
    obtain ⟨handlers, es, hpart⟩ := hdue.part hj
    have hleft := Parked.left_advance hpart (j.situation p.observers) s
    rw [hwork] at hleft
    exact faithful_settled hleft _ s'

/-- The work of a job is the same in two processors that differ in their handlers, observers and
jobs. -/
theorem Faithful.of_alike (h : p.Faithful j) (halike : p.Alike p') : p'.Faithful j := by
  have hwork (handlers : List Handler) :
      work { p' with handlers } j = work { p with handlers } j := by
    unfold work
    rw [halike.settings, halike.registry, halike.names]
  unfold Faithful at h ⊢
  cases hphase : j.phase with
  | waiting | admitted => trivial
  | running since left =>
    rw [hphase] at h
    obtain ⟨handlers, hleft⟩ := h
    exact ⟨handlers, by rw [hwork]; exact hleft⟩
  | ended since finish result =>
    rw [hphase] at h
    obtain ⟨handlers, es, hes⟩ := h
    exact ⟨handlers, es, by rw [hwork]; exact hes⟩

theorem Ran.faithful {i : Nat} (h : p.Ran s p' s' i j j') (hjobs : ∀ k ∈ p.jobs, p.Faithful k) :
    ∀ k ∈ p'.jobs, p.Faithful k := by
  intro k hk
  rw [h.jobs] at hk
  rcases List.mem_or_eq_of_mem_set hk with hk | rfl
  · exact hjobs k hk
  · exact h.onward.faithful (hjobs j (List.mem_of_getElem? h.found))

theorem faithful_move (p : Processor) (m : Move) (h : ∀ j ∈ p.jobs, p.Faithful j) :
    ∀ j ∈ (p.move m).jobs, (p.move m).Faithful j := by
  have hmoved : ∀ j ∈ (p.move m).jobs, p.Faithful j := by
    refine move_cases (P := fun p' => ∀ j ∈ p'.jobs, p.Faithful j) m h ?_ (fun _ => h)
      (fun _ => h) ?_ ?_
    · intro delivery acknowledger token j hj
      rw [request_jobs, List.mem_append, List.mem_singleton] at hj
      rcases hj with hj | rfl
      · exact h j hj
      · trivial
    · intro s s' p' hg
      obtain ⟨i, j, j', hran⟩ := ran_of_grant? hg
      exact hran.faithful h
    · intro s s' i p' hr
      obtain ⟨j, j', hran⟩ := ran_of_resume? hr
      exact hran.faithful h
  exact fun j hj => (hmoved j hj).of_alike (p.alike_move m)

/-- A job that is over has been handled by the law of settlement, with the handlers that were there
when it began. -/
theorem settlementLaw_of_result? (settings : ConsumerSettings) (registry : Registry)
    (observers : List String) (ms : List Move) {finish : Nat} {result : Outcome}
    (hj : j ∈ ((ofSettings settings registry observers).moves ms).jobs)
    (hresult : j.result? = some (result, finish)) :
    ∃ handlers es, SettlementLaw
      { (ofSettings settings registry observers).moves ms with handlers } j.delivery es result := by
  have hfaithful := List.foldlRecOn (motive := fun p => ∀ j ∈ p.jobs, p.Faithful j) ms move
    (b := ofSettings settings registry observers) (fun _ hnone => (nomatch hnone))
    (fun p h m _ => faithful_move p m h) j hj
  unfold Faithful at hfaithful
  unfold Job.result? at hresult
  cases hphase : j.phase with
  | waiting | admitted => simp [hphase] at hresult
  | running since left => simp [hphase] at hresult
  | ended since finish' result' =>
    simp only [hphase, Option.some.injEq, Prod.mk.injEq] at hresult
    obtain ⟨rfl, -⟩ := hresult
    rw [hphase] at hfaithful
    obtain ⟨handlers, es, hes⟩ := hfaithful
    exact ⟨handlers, es, settlementLaw_of_course hes⟩

end MessageBus.Processor
