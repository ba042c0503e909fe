import MessageBus.Proofs.Bus.Steps

/-!
# Starting the consumers of a bus

Calls that start the consumers of a bus go through them in order. At any time the starts of some of
them have returned well, at most one is under way or has failed, and those behind it are not called
at all: `Starting` says so, and `UnderWay.next` that every step of an application keeps it. Once a
start has failed nothing further is called (`Halted`).
-/

set_option autoImplicit false

namespace MessageBus

namespace Series

theorem kind_afterReturn (calls : Series) (r : Outcome) :
    (calls.afterReturn r).kind = calls.kind := by
  obtain ⟨_ | _, _, _, _, _, _⟩ := calls <;> cases r <;> rfl

end Series

namespace Bus

open Consumer (Site)

/-! ## Some consumers -/

/-- Something holds of the consumer at a place, between two scenes. -/
def At (P : Site → Site → Prop) (s₀ : Scene) (cs₀ : List Consumer) (s : Scene)
    (cs : List Consumer) (j : Nat) : Prop :=
  ∀ c₀ c, cs₀[j]? = some c₀ → cs[j]? = some c → P ⟨s₀, c₀⟩ ⟨s, c⟩

variable {s₀ s s' : Scene} {cs₀ cs cs' : List Consumer} {token : Token} {P : Site → Site → Prop}
  {j : Nat}

theorem At.trans (h : At P s₀ cs₀ s cs j)
    (hmoved : List.Forall₂ (fun c c' => Site.Uncalled ⟨s, c⟩ ⟨s', c'⟩) cs cs')
    (hP : ∀ {w w' w''}, P w w' → w'.Uncalled w'' → P w w'') : At P s₀ cs₀ s' cs' j := by
  intro c₀ c' hc₀ hc'
  obtain ⟨hj', rfl⟩ := List.getElem?_eq_some_iff.1 hc'
  have hj : j < cs.length := hmoved.length_eq ▸ hj'
  exact hP (h c₀ cs[j] hc₀ (List.getElem?_eq_getElem hj)) (hmoved.get hj hj')

/-- To the other consumers the step of one is a step of somebody else. -/
theorem At.of_set_ne {i : Nat} {c : Consumer} (h : At P s₀ cs₀ s cs j) (hne : j ≠ i)
    (honward : s.Onward s') (hP : ∀ {w w' w''}, P w w' → w'.Uncalled w'' → P w w'') :
    At P s₀ cs₀ s' (cs.set i c) j := by
  intro c₀ x hc₀ hx
  rw [List.getElem?_set_ne hne.symm] at hx
  exact hP (h c₀ x hc₀ hx) (Site.uncalled_elsewhere honward x)

/-- How calls stand that start some consumers in order: what is still to be done, what is under way,
and what has failed. -/
inductive Starting (token : Token) (s₀ : Scene) (cs₀ : List Consumer) (s : Scene)
    (cs : List Consumer) : List Nat → Option (Nat × Nat) → Option BusError → Prop where
  /-- The first `n` have started. -/
  | between {n : Nat}
      (hbefore : ∀ j < n, At (Site.StartedWith token (.ok ())) s₀ cs₀ s cs j)
      (hbehind : ∀ j, n ≤ j → At Site.Uncalled s₀ cs₀ s cs j) :
      Starting token s₀ cs₀ s cs (List.range' n (cs.length - n)) none none
  /-- The next one is being started. -/
  | calling {n call : Nat} (hn : n < cs.length)
      (hbefore : ∀ j < n, At (Site.StartedWith token (.ok ())) s₀ cs₀ s cs j)
      (hcalled : At (Site.StartedOnce token call) s₀ cs₀ s cs n)
      (hbehind : ∀ j, n < j → At Site.Uncalled s₀ cs₀ s cs j) :
      Starting token s₀ cs₀ s cs (List.range' (n + 1) (cs.length - (n + 1))) (some (n, call)) none
  /-- The start of one has failed. -/
  | failed {n : Nat} {e : BusError} (hn : n < cs.length)
      (hbefore : ∀ j < n, At (Site.StartedWith token (.ok ())) s₀ cs₀ s cs j)
      (hfailed : At (Site.StartedWith token (.error e)) s₀ cs₀ s cs n)
      (hbehind : ∀ j, n < j → At Site.Uncalled s₀ cs₀ s cs j) :
      Starting token s₀ cs₀ s cs [] none (some e)

variable {todo : List Nat} {current : Option (Nat × Nat)} {failure : Option BusError}

/-- It stays so while no consumer is called. -/
theorem Starting.moved (h : Starting token s₀ cs₀ s cs todo current failure)
    (hmoved : List.Forall₂ (fun c c' => Site.Uncalled ⟨s, c⟩ ⟨s', c'⟩) cs cs') :
    Starting token s₀ cs₀ s' cs' todo current failure := by
  have hlength := hmoved.length_eq
  cases h with
  | between hbefore hbehind =>
    rw [hlength]
    exact .between (fun j hj => (hbefore j hj).trans hmoved Site.StartedWith.trans)
      fun j hj => (hbehind j hj).trans hmoved Site.Uncalled.trans
  | calling hn hbefore hcalled hbehind =>
    rw [hlength]
    exact .calling (hlength ▸ hn)
      (fun j hj => (hbefore j hj).trans hmoved Site.StartedWith.trans)
      (hcalled.trans hmoved Site.StartedOnce.trans)
      fun j hj => (hbehind j hj).trans hmoved Site.Uncalled.trans
  | failed hn hbefore hfailed hbehind =>
    exact .failed (hlength ▸ hn)
      (fun j hj => (hbefore j hj).trans hmoved Site.StartedWith.trans)
      (hfailed.trans hmoved Site.StartedWith.trans)
      fun j hj => (hbehind j hj).trans hmoved Site.Uncalled.trans

theorem Starting.elsewhere (h : Starting token s₀ cs₀ s cs todo current failure)
    (honward : s.Onward s') : Starting token s₀ cs₀ s' cs todo current failure :=
  h.moved (List.forall₂_same.2 fun x _ => Site.uncalled_elsewhere honward x)

/-- A start has returned. -/
theorem Starting.returned {n call : Nat} {c : Consumer} {r : Outcome} {series : Series}
    (h : Starting token s₀ cs₀ s cs series.todo series.current series.failure)
    (hkind : series.kind = .start token) (hcurrent : series.current = some (n, call))
    (hc : cs[n]? = some c) (hr : c.result? call = some r) :
    Starting token s₀ cs₀ s cs (series.afterReturn r).todo (series.afterReturn r).current
      (series.afterReturn r).failure := by
  obtain ⟨kind, todo, current, failure, isOver, noted, isReported⟩ := series
  obtain rfl : kind = .start token := hkind
  obtain rfl : current = some (n, call) := hcurrent
  dsimp only at h
  have hreturned {result : Outcome} (hresult : r = result)
      (hcalled : At (Site.StartedOnce token call) s₀ cs₀ s cs n) :
      At (Site.StartedWith token result) s₀ cs₀ s cs n := by
    intro c₀ c' hc₀ hc'
    obtain rfl := Option.some.inj (hc.symm.trans hc')
    exact ⟨call, hcalled c₀ c hc₀ hc, hresult ▸ hr⟩
  cases h with
  | calling hn hbefore hcalled hbehind =>
    cases r with
    | ok u =>
      refine .between (fun j hj => ?_) hbehind
      rcases Nat.lt_succ_iff_lt_or_eq.1 hj with hj | rfl
      · exact hbefore j hj
      · exact hreturned rfl hcalled
    | error e => exact .failed hn hbefore (hreturned rfl hcalled) hbehind

/-- The next consumer is started. -/
theorem Starting.called {i : Nat} {todo : List Nat} {c c' : Consumer}
    (h : Starting token s₀ cs₀ s cs (i :: todo) none none) (hc : cs[i]? = some c)
    (hstep : c.step s (.start token) = some (s', c')) :
    Starting token s₀ cs₀ s' (cs.set i c') todo (some (i, c.calls)) none := by
  have honward : s.Onward s' := (Consumer.leads_step hstep).onward
  generalize htodo : i :: todo = all at h
  cases h with
  | @between n hbefore hbehind =>
    have hlength : cs.length - n = (cs.length - (n + 1)) + 1 := by
      rcases Nat.lt_or_ge n cs.length with hlt | hge
      · omega
      · rw [Nat.sub_eq_zero_of_le hge] at htodo
        cases htodo
    rw [hlength, List.range'_succ] at htodo
    obtain ⟨rfl, rfl⟩ := List.cons.inj htodo
    have hi : i < cs.length := (List.getElem?_eq_some_iff.1 hc).1
    have hstarted : At (Site.StartedOnce token c.calls) s₀ cs₀ s' (cs.set i c') i := by
      intro c₀ x hc₀ hx
      obtain rfl : c' = x := by simpa [hi] using hx
      refine ⟨⟨s, c⟩, hbehind i (Nat.le_refl i) c₀ c hc₀ hc, rfl, ?_⟩
      have hnext : (⟨s, c⟩ : Site).next (.own (.start token)) = ⟨s', c'⟩ := by
        simp [Site.next, Site.step?, hstep]
      rw [hnext]
      exact Site.uncalled_refl _
    have hrest : Starting token s₀ cs₀ s' (cs.set i c')
        (List.range' (i + 1) ((cs.set i c').length - (i + 1))) (some (i, c.calls)) none :=
      .calling (by simpa using hi)
        (fun j hj => (hbefore j hj).of_set_ne (by omega) honward Site.StartedWith.trans) hstarted
        fun j hj => (hbehind j (by omega)).of_set_ne (by omega) honward Site.Uncalled.trans
    rwa [List.length_set] at hrest

/-- What is still to be done was not given up after a failure. -/
theorem Starting.failure_eq_none {i : Nat} {todo : List Nat} {failure : Option BusError}
    (h : Starting token s₀ cs₀ s cs (i :: todo) current failure) : failure = none := by
  generalize htodo : i :: todo = all at h
  cases h with
  | between | calling => rfl
  | failed => cases htodo

/-! ## The last calls of a bus -/

theorem series_set_last {earlier : List Series} {b : Bus} {calls : Series}
    (h : b.series = earlier ++ [calls]) (calls' : Series) :
    b.series.set earlier.length calls' = earlier ++ [calls'] := by
  rw [h, List.set_append_right _ _ (Nat.le_refl _), Nat.sub_self]
  rfl

theorem getElem?_series_last {earlier : List Series} {b : Bus} {calls : Series}
    (h : b.series = earlier ++ [calls]) : b.series[earlier.length]? = some calls := by
  rw [h, List.getElem?_append_right (Nat.le_refl _), Nat.sub_self]
  rfl

/-- Where the calls before them are over, only the last ones can go on. -/
theorem Next.of_last {earlier : List Series} {b b' : Bus} {calls : Series} (h : Next s b s' b')
    (hseries : b.series = earlier ++ [calls]) (hearlier : ∀ x ∈ earlier, x.isOver = true) :
    Moved s b s' b' ∨
      (calls.isOver = false ∧ CallsStepped s b earlier.length calls s' b') := by
  cases h with
  | moved hmoved => exact .inl hmoved
  | @called k c hc hopen hstepped =>
    have hlt : k < earlier.length + 1 := by
      simpa [hseries] using (List.getElem?_eq_some_iff.1 hc).1
    rcases Nat.lt_succ_iff_lt_or_eq.1 hlt with hlt | rfl
    · rw [hseries, List.getElem?_append_left hlt] at hc
      rw [hearlier c (List.mem_of_getElem? hc)] at hopen
      cases hopen
    · obtain rfl := Option.some.inj ((getElem?_series_last hseries).symm.trans hc)
      exact .inr ⟨hopen, hstepped⟩

/-- Some calls are the only ones that are not over, and stand as calls do that start some
consumers. -/
structure UnderWay (token : Token) (s₀ : Scene) (cs₀ : List Consumer) (earlier : List Series)
    (s : Scene) (b : Bus) (calls : Series) : Prop where
  length : b.consumers.length = cs₀.length
  series : b.series = earlier ++ [calls]
  kind : calls.kind = .start token
  starting : Starting token s₀ cs₀ s b.consumers calls.todo calls.current calls.failure

variable {earlier : List Series} {b b' : Bus} {calls : Series}

theorem UnderWay.stepped (h : UnderWay token s₀ cs₀ earlier s b calls)
    (hstepped : CallsStepped s b earlier.length calls s' b') :
    ∃ calls', UnderWay token s₀ cs₀ earlier s' b' calls' := by
  have hset := series_set_last h.series
  have hstarting := h.starting
  cases hstepped with
  | @returned i call consumer r _ hcurrent hconsumer hr honward =>
    refine ⟨calls.afterReturn r, h.length, hset _, ?_,
      (hstarting.returned h.kind hcurrent hconsumer hr).elsewhere honward⟩
    rw [Series.kind_afterReturn, h.kind]
  | ended hcurrent htodo honward =>
    refine ⟨{ calls with isOver := true }, h.length, hset _, h.kind, ?_⟩
    exact hstarting.elsewhere honward
  | @called i todo consumer consumer' _ hcurrent htodo hconsumer hstep =>
    rw [hcurrent, htodo] at hstarting
    have hfailure : calls.failure = none := hstarting.failure_eq_none
    rw [hfailure] at hstarting
    rw [h.kind] at hstep
    refine ⟨{ calls with todo, current := some (i, consumer.calls) },
      (List.length_set ..).trans h.length, hset _, h.kind, ?_⟩
    have hcalled := hstarting.called hconsumer hstep
    rw [← hfailure] at hcalled
    exact hcalled

/-- A step of an application keeps it. -/
theorem UnderWay.next (h : UnderWay token s₀ cs₀ earlier s b calls)
    (hearlier : ∀ x ∈ earlier, x.isOver = true) (hnext : Next s b s' b') :
    ∃ calls', UnderWay token s₀ cs₀ earlier s' b' calls' := by
  rcases hnext.of_last h.series hearlier with hmoved | ⟨-, hstepped⟩
  · exact ⟨calls, hmoved.consumers.length_eq.symm.trans h.length, hmoved.series.trans h.series,
      h.kind, h.starting.moved hmoved.consumers⟩
  · exact h.stepped hstepped

/-- Calls that begin have started nobody yet. -/
theorem underWay_start (token : Token) (s : Scene) (b : Bus) :
    UnderWay token s b.consumers b.series s (b.start token).1
      { kind := .start token, todo := List.range b.consumers.length, isReported := true } where
  length := rfl
  series := rfl
  kind := rfl
  starting := by
    have hbetween : Starting token s b.consumers s b.consumers
        (List.range' 0 (b.consumers.length - 0)) none none := by
      refine .between nofun fun j _ c₀ c hc₀ hc => ?_
      obtain rfl := Option.some.inj (hc₀.symm.trans hc)
      exact Site.uncalled_refl _
    rwa [Nat.sub_zero, ← List.range_eq_range'] at hbetween

/-! ## After a failure -/

/-- The start of the consumers was given up at one of them, and nobody is called any more. -/
structure Halted (token : Token) (s₀ : Scene) (cs₀ : List Consumer) (e : BusError) (n : Nat)
    (s : Scene) (cs : List Consumer) : Prop where
  length : cs.length = cs₀.length
  before : ∀ j < n, At (Site.StartedWith token (.ok ())) s₀ cs₀ s cs j
  failed : At (Site.StartedWith token (.error e)) s₀ cs₀ s cs n
  behind : ∀ j, n < j → At Site.Uncalled s₀ cs₀ s cs j

theorem Halted.moved {e : BusError} {n : Nat} (h : Halted token s₀ cs₀ e n s cs)
    (hmoved : List.Forall₂ (fun c c' => Site.Uncalled ⟨s, c⟩ ⟨s', c'⟩) cs cs') :
    Halted token s₀ cs₀ e n s' cs' where
  length := hmoved.length_eq.symm.trans h.length
  before j hj := (h.before j hj).trans hmoved Site.StartedWith.trans
  failed := h.failed.trans hmoved Site.StartedWith.trans
  behind j hj := (h.behind j hj).trans hmoved Site.Uncalled.trans

/-- Where a start of the consumers has failed, it was given up at one of them. -/
theorem UnderWay.of_error {e : BusError} (h : UnderWay token s₀ cs₀ earlier s b calls)
    (hresult : b.result? earlier.length = some (.error e)) :
    calls.isOver = true ∧ ∃ n < cs₀.length, Halted token s₀ cs₀ e n s b.consumers := by
  have hlast := getElem?_series_last h.series
  simp only [result?, hlast, Option.bind_eq_bind, Option.bind_some] at hresult
  split at hresult
  · next hover =>
    have hfailure : calls.failure = some e := by
      have hcalls : calls.result = .error e := Option.some.inj hresult
      unfold Series.result at hcalls
      cases hfailure : calls.failure with
      | none => rw [hfailure] at hcalls; cases hcalls
      | some e' => rw [hfailure] at hcalls; rw [Except.error.inj hcalls]
    have hstarting := h.starting
    rw [hfailure] at hstarting
    generalize calls.todo = todo, calls.current = current at hstarting
    cases hstarting with
    | failed hn hbefore hfailed hbehind =>
      exact ⟨hover, _, h.length ▸ hn, h.length, hbefore, hfailed, hbehind⟩
  · cases hresult

end Bus

end MessageBus
