import MessageBus.Proofs.Bus.Starting
import MessageBus.Proofs.Consumer.Single

/-!
# Stopping the consumers of a bus

Calls that stop the consumers of a bus go through all of them in order, whatever the stops return.
At any time the stops of some of them have returned, at most one is under way, and those behind it
are not called yet: `Stopping` says so, and `StopsUnderWay.next` that every step of an application
keeps it. What the calls return is the first of the errors.
-/

set_option autoImplicit false

namespace MessageBus

/-- The first error among some results; without one all is well. -/
def firstError (results : List Outcome) : Outcome :=
  (results.find? fun r => !r.isOk).getD (.ok ())

theorem firstError_append_of_ok {results : List Outcome} (h : firstError results = .ok ())
    (r : Outcome) : firstError (results ++ [r]) = r := by
  have hnone : results.find? (fun r => !r.isOk) = none := by
    cases hfind : results.find? (fun r => !r.isOk) with
    | none => rfl
    | some x =>
      have hx := List.find?_some hfind
      rw [firstError, hfind] at h
      obtain rfl : x = .ok () := h
      cases hx
  rw [firstError, List.find?_append, hnone]
  cases r <;> rfl

theorem firstError_append_of_error {results : List Outcome} {e : BusError}
    (h : firstError results = .error e) (r : Outcome) :
    firstError (results ++ [r]) = .error e := by
  cases hfind : results.find? (fun r => !r.isOk) with
  | none =>
    rw [firstError, hfind] at h
    cases h
  | some x =>
    rw [firstError, hfind] at h
    rw [firstError, List.find?_append, hfind]
    exact h

theorem firstError_eq_ok {results : List Outcome} (h : ∀ r ∈ results, r = .ok ()) :
    firstError results = .ok () := by
  have hnone : results.find? (fun r => !r.isOk) = none :=
    List.find?_eq_none.2 fun r hr => by rw [h r hr]; decide
  rw [firstError, hnone]
  rfl

/-- A stop that returns an error changes the result of the calls only if it is the first one. -/
theorem Series.result_afterReturn {calls : Series} {results : List Outcome}
    (hkind : calls.kind = .stop) (h : calls.result = firstError results) (r : Outcome) :
    (calls.afterReturn r).result = firstError (results ++ [r]) := by
  obtain ⟨kind, todo, current, failure, isOver, noted, isReported⟩ := calls
  obtain rfl : kind = .stop := hkind
  cases failure with
  | none =>
    rw [firstError_append_of_ok h.symm]
    cases r <;> rfl
  | some e =>
    rw [firstError_append_of_error h.symm]
    cases r <;> rfl

namespace Bus

open Consumer (Site)

variable {s₀ s s' : Scene} {cs₀ cs cs' : List Consumer} {results : List Outcome} {todo : List Nat}
  {current : Option (Nat × Nat)} {earlier : List Series} {b b' : Bus} {calls : Series}

/-- The consumer that is called has been called once. -/
theorem At.called {i : Nat} {c c' : Consumer} {l : Consumer.Label}
    (h : At Site.Uncalled s₀ cs₀ s cs i) (hc : cs[i]? = some c)
    (hstep : c.step s l = some (s', c')) :
    At (Site.CalledOnce l c.calls) s₀ cs₀ s' (cs.set i c') i := by
  intro c₀ x hc₀ hx
  rw [List.getElem?_set_self (List.getElem?_eq_some_iff.1 hc).1] at hx
  obtain rfl := Option.some.inj hx
  refine ⟨⟨s, c⟩, h c₀ c hc₀ hc, rfl, ?_⟩
  have hnext : (⟨s, c⟩ : Site).next (.own l) = ⟨s', c'⟩ := by
    simp [Site.next, Site.step?, hstep]
  rw [hnext]
  exact Site.uncalled_refl _

/-- Stops have returned these results, one for each of the first consumers. -/
def StopsReturned (s₀ : Scene) (cs₀ : List Consumer) (s : Scene) (cs : List Consumer)
    (results : List Outcome) : Prop :=
  ∀ j r, results[j]? = some r → At (Site.CalledWith .stop r) s₀ cs₀ s cs j

theorem StopsReturned.append {r : Outcome} (h : StopsReturned s₀ cs₀ s cs results)
    (hr : At (Site.CalledWith .stop r) s₀ cs₀ s cs results.length) :
    StopsReturned s₀ cs₀ s cs (results ++ [r]) := by
  intro j r' hr'
  rcases Nat.lt_or_ge j results.length with hj | hj
  · rw [List.getElem?_append_left hj] at hr'
    exact h j r' hr'
  · have hlt := (List.getElem?_eq_some_iff.1 hr').1
    rw [List.length_append, List.length_singleton] at hlt
    obtain rfl : j = results.length := by omega
    rw [List.getElem?_append_right hj, Nat.sub_self] at hr'
    obtain rfl := Option.some.inj hr'
    exact hr

/-- How calls stand that stop some consumers in order, the first of which have returned these
results: what is still to be done, and what is under way. -/
inductive Stopping (s₀ : Scene) (cs₀ : List Consumer) (s : Scene) (cs : List Consumer)
    (results : List Outcome) : List Nat → Option (Nat × Nat) → Prop where
  | between (hle : results.length ≤ cs.length) (hreturned : StopsReturned s₀ cs₀ s cs results)
      (hbehind : ∀ j, results.length ≤ j → At Site.Uncalled s₀ cs₀ s cs j) :
      Stopping s₀ cs₀ s cs results
        (List.range' results.length (cs.length - results.length)) none
  /-- The next one is being stopped. -/
  | calling {id : Nat} (hlt : results.length < cs.length)
      (hreturned : StopsReturned s₀ cs₀ s cs results)
      (hcalled : At (Site.CalledOnce .stop id) s₀ cs₀ s cs results.length)
      (hbehind : ∀ j, results.length < j → At Site.Uncalled s₀ cs₀ s cs j) :
      Stopping s₀ cs₀ s cs results
        (List.range' (results.length + 1) (cs.length - (results.length + 1)))
        (some (results.length, id))

/-- It stays so while no consumer is called. -/
theorem Stopping.moved (h : Stopping s₀ cs₀ s cs results todo current)
    (hmoved : List.Forall₂ (fun c c' => Site.Uncalled ⟨s, c⟩ ⟨s', c'⟩) cs cs') :
    Stopping s₀ cs₀ s' cs' results todo current := by
  have hlength := hmoved.length_eq
  cases h with
  | between hle hreturned hbehind =>
    rw [hlength] at hle ⊢
    exact .between hle (fun j r hr => (hreturned j r hr).trans hmoved Site.CalledWith.trans)
      fun j hj => (hbehind j hj).trans hmoved Site.Uncalled.trans
  | calling hlt hreturned hcalled hbehind =>
    rw [hlength] at hlt ⊢
    exact .calling hlt (fun j r hr => (hreturned j r hr).trans hmoved Site.CalledWith.trans)
      (hcalled.trans hmoved Site.CalledOnce.trans)
      fun j hj => (hbehind j hj).trans hmoved Site.Uncalled.trans

theorem Stopping.elsewhere (h : Stopping s₀ cs₀ s cs results todo current) (honward : s.Onward s') :
    Stopping s₀ cs₀ s' cs results todo current :=
  h.moved (List.forall₂_same.2 fun x _ => Site.uncalled_elsewhere honward x)

/-- A stop has returned. -/
theorem Stopping.returned {i id : Nat} {c : Consumer} {r : Outcome}
    (h : Stopping s₀ cs₀ s cs results todo (some (i, id))) (hc : cs[i]? = some c)
    (hr : c.result? id = some r) : Stopping s₀ cs₀ s cs (results ++ [r]) todo none := by
  cases h with
  | calling hlt hreturned hcalled hbehind =>
    have hlength : (results ++ [r]).length = results.length + 1 := List.length_append
    have hlast : At (Site.CalledWith .stop r) s₀ cs₀ s cs results.length := by
      intro c₀ c' hc₀ hc'
      obtain rfl := Option.some.inj (hc.symm.trans hc')
      exact ⟨id, hcalled c₀ c hc₀ hc, hr⟩
    rw [← hlength]
    exact .between (hlength ▸ hlt) (hreturned.append hlast) fun j hj => hbehind j (by omega)

/-- The next consumer is stopped. -/
theorem Stopping.called {i : Nat} {c c' : Consumer}
    (h : Stopping s₀ cs₀ s cs results (i :: todo) none) (hc : cs[i]? = some c)
    (hstep : c.step s .stop = some (s', c')) :
    Stopping s₀ cs₀ s' (cs.set i c') results todo (some (i, c.calls)) := by
  have honward : s.Onward s' := (Consumer.leads_step hstep).onward
  generalize htodo : i :: todo = all at h
  cases h with
  | between hle hreturned hbehind =>
    obtain ⟨rest, hrest⟩ : ∃ rest, cs.length - results.length = rest + 1 := by
      cases hlength : cs.length - results.length with
      | zero => rw [hlength] at htodo; cases htodo
      | succ rest => exact ⟨rest, rfl⟩
    rw [hrest, List.range'_succ] at htodo
    obtain ⟨rfl, rfl⟩ := List.cons.inj htodo
    obtain rfl : rest = (cs.set results.length c').length - (results.length + 1) := by
      rw [List.length_set]
      omega
    have hlt {j : Nat} {r : Outcome} (hr : results[j]? = some r) : j < results.length :=
      (List.getElem?_eq_some_iff.1 hr).1
    exact .calling (by rw [List.length_set]; omega)
      (fun j r hr => (hreturned j r hr).of_set_ne (hlt hr).ne honward Site.CalledWith.trans)
      ((hbehind _ (Nat.le_refl _)).called hc hstep)
      fun j hj => (hbehind j hj.le).of_set_ne hj.ne' honward Site.Uncalled.trans

/-- Some calls are the only ones that are not over, and stand as calls do that stop some consumers,
of which the first have returned these results. -/
structure StopsUnderWay (s₀ : Scene) (cs₀ : List Consumer) (earlier : List Series) (s : Scene)
    (b : Bus) (calls : Series) (results : List Outcome) : Prop where
  length : b.consumers.length = cs₀.length
  series : b.series = earlier ++ [calls]
  kind : calls.kind = .stop
  result : calls.result = firstError results
  stopping : Stopping s₀ cs₀ s b.consumers results calls.todo calls.current

theorem StopsUnderWay.stepped (h : StopsUnderWay s₀ cs₀ earlier s b calls results)
    (hstepped : CallsStepped s b earlier.length calls s' b') :
    ∃ calls' results', StopsUnderWay s₀ cs₀ earlier s' b' calls' results' := by
  have hset := series_set_last h.series
  have hstopping := h.stopping
  cases hstepped with
  | @returned i call consumer r _ hcurrent hconsumer hr honward =>
    rw [hcurrent] at hstopping
    refine ⟨calls.afterReturn r, results ++ [r], h.length, hset _, ?_,
      Series.result_afterReturn h.kind h.result r, ?_⟩
    · rw [Series.kind_afterReturn, h.kind]
    · have hreturned := (hstopping.returned hconsumer hr).elsewhere honward
      have hkind := h.kind
      cases r <;> simpa only [Series.afterReturn, hkind] using hreturned
  | ended hcurrent htodo honward =>
    refine ⟨{ calls with isOver := true }, results, h.length, hset _, h.kind, h.result, ?_⟩
    exact hstopping.elsewhere honward
  | @called i todo consumer consumer' _ hcurrent htodo hconsumer hstep =>
    rw [hcurrent, htodo] at hstopping
    rw [h.kind] at hstep
    exact ⟨{ calls with todo, current := some (i, consumer.calls) }, results,
      (List.length_set ..).trans h.length, hset _, h.kind, h.result,
      hstopping.called hconsumer hstep⟩

/-- A step of an application keeps it. -/
theorem StopsUnderWay.next (h : StopsUnderWay s₀ cs₀ earlier s b calls results)
    (hearlier : ∀ x ∈ earlier, x.isOver = true) (hnext : Next s b s' b') :
    ∃ calls' results', StopsUnderWay s₀ cs₀ earlier s' b' calls' results' := by
  rcases hnext.of_last h.series hearlier with hmoved | ⟨-, hstepped⟩
  · exact ⟨calls, results, hmoved.consumers.length_eq.symm.trans h.length,
      hmoved.series.trans h.series, h.kind, h.result, h.stopping.moved hmoved.consumers⟩
  · exact h.stepped hstepped

/-- Calls that begin have stopped nobody yet. -/
theorem stopsUnderWay_stop (s : Scene) (b : Bus) :
    StopsUnderWay s b.consumers b.series s b.stop.1
      { kind := .stop, todo := List.range b.consumers.length, isReported := true } [] where
  length := rfl
  series := rfl
  kind := rfl
  result := rfl
  stopping := by
    have hbetween : Stopping s b.consumers s b.consumers []
        (List.range' 0 (b.consumers.length - 0)) none := by
      refine .between (Nat.zero_le _) nofun fun j _ c₀ c hc₀ hc => ?_
      obtain rfl := Option.some.inj (hc₀.symm.trans hc)
      exact Site.uncalled_refl _
    rwa [Nat.sub_zero, ← List.range_eq_range'] at hbetween

end Bus

end MessageBus
