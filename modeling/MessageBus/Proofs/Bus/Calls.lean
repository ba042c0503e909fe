import MessageBus.Proofs.Bus.Connecting
import MessageBus.Proofs.Bus.Stopping

/-!
# Starting and stopping a bus

Where nothing is under way, a start of all consumers goes through them in order and gives up at the
first that fails: those before it are running, it is idle, and those behind it are passed over. A
stop goes through all of them and leaves each one shut, and its result is the first error. The calls
can go on until they have their result, whatever the broker answers, and with each of their steps
less is left to be done. Main statement: `calls_law`.
-/

set_option autoImplicit false

namespace MessageBus

namespace Series

/-- Calls that are over have nobody left to call. -/
def IsComplete (calls : Series) : Prop :=
  calls.isOver = true → calls.todo = [] ∧ calls.current = none

/-- How many steps there are at most to the end of some calls. -/
def left (calls : Series) : Nat :=
  2 * calls.todo.length + (if calls.current.isSome then 1 else 0) + if calls.isOver then 0 else 1

theorem isOver_afterReturn (calls : Series) (r : Outcome) :
    (calls.afterReturn r).isOver = calls.isOver := by
  obtain ⟨_ | _, _, _, _, _, _, _⟩ := calls <;> cases r <;> rfl

theorem current_afterReturn (calls : Series) (r : Outcome) :
    (calls.afterReturn r).current = none := by
  obtain ⟨_ | _, _, _, _, _, _, _⟩ := calls <;> cases r <;> rfl

theorem length_todo_afterReturn_le (calls : Series) (r : Outcome) :
    (calls.afterReturn r).todo.length ≤ calls.todo.length := by
  obtain ⟨_ | _, _, _, _, _, _, _⟩ := calls <;> cases r <;>
    first | exact Nat.le_refl _ | exact Nat.zero_le _

end Series

namespace Bus

open Consumer (Begins Bare Course Numbered Shut Site)

variable {s₀ s s' : Scene} {b₀ b b' : Bus} {calls : Series} {k : Nat} {token : Token}

/-! ## Runs -/

/-- A bus goes on, by its own steps and those of others, while nobody begins calls on its
consumers. -/
inductive Runs (s : Scene) (b : Bus) : Scene → Bus → Prop where
  | refl : Runs s b s b
  | step {s' s'' : Scene} {b' b'' : Bus} (h : Runs s b s' b') (hnext : Next s' b' s'' b'') :
      Runs s b s'' b''

/-- What every step preserves is preserved by runs. -/
theorem Runs.preserves {P : Scene → Bus → Prop} (h : Runs s b s' b')
    (hP : ∀ s b s' b', Next s b s' b' → P s b → P s' b') (hb : P s b) : P s' b' := by
  induction h with
  | refl => exact hb
  | step _ hnext ih => exact hP _ _ _ _ hnext ih

/-- What an application does is a run of each of its buses. -/
theorem runs_of_reaches {a a' : Application} (h : a.Reaches a') {i : Nat}
    (hb : a.buses[i]? = some b) : ∃ b', a'.buses[i]? = some b' ∧ Runs a.scene b a'.scene b' :=
  h.bus (P := Runs a.scene b) (fun _ _ _ _ hnext hruns => hruns.step hnext) hb .refl

/-- So are the calls for whose result it waits. -/
theorem exists_runs_callOn (fuel : Nat) {a : Application} {i : Nat} (begin : Bus → Bus × Nat)
    {r : Outcome} (hb : a.buses[i]? = some b) (hr : (a.callOn fuel i begin).1 = some r) :
    ∃ b', (a.callOn fuel i begin).2.buses[i]? = some b' ∧
      Runs a.scene (begin b).1 (a.callOn fuel i begin).2.scene b' ∧
      b'.result? (begin b).2 = some r := by
  obtain ⟨hreach, hresult⟩ := Application.reaches_callOn fuel hb begin
  have hi := (List.getElem?_eq_some_iff.1 hb).1
  obtain ⟨b', hb', hruns⟩ := runs_of_reaches hreach (List.getElem?_set_self hi)
  rw [hr, hb', Option.bind_some] at hresult
  exact ⟨b', hb', hruns, hresult.symm⟩

/-! ## Steps of calls -/

theorem CallsStepped.exists_set (h : CallsStepped s b k calls s' b')
    (hopen : calls.isOver = false) :
    ∃ calls', b'.series = b.series.set k calls' ∧ calls'.IsComplete ∧
      calls'.left < calls.left := by
  cases h with
  | @returned i id consumer r _ hcurrent =>
    have hover := (calls.isOver_afterReturn r).trans hopen
    refine ⟨_, rfl, fun h => ?_, ?_⟩
    · rw [hover] at h
      cases h
    · have htodo := calls.length_todo_afterReturn_le r
      simp only [Series.left, hover, hopen, hcurrent, Series.current_afterReturn]
      simp
      omega
  | ended hcurrent htodo =>
    refine ⟨_, rfl, fun _ => ⟨htodo, hcurrent⟩, ?_⟩
    simp [Series.left, hcurrent, htodo, hopen]
  | called hcurrent htodo =>
    refine ⟨_, rfl, fun h => ?_, ?_⟩
    · rw [hopen] at h
      cases h
    · simp only [Series.left, hcurrent, htodo, hopen, List.length_cons]
      simp
      omega

/-- Calls that are over stay complete. -/
theorem Next.isComplete (h : Next s b s' b')
    (hb : ∀ calls, b.series[k]? = some calls → calls.IsComplete) :
    ∀ calls, b'.series[k]? = some calls → calls.IsComplete := by
  cases h with
  | moved hmoved =>
    rw [hmoved.series]
    exact hb
  | called _ hopen hstepped =>
    obtain ⟨calls', hset, hcomplete, -⟩ := hstepped.exists_set hopen
    intro calls hcalls
    rw [hset, List.getElem?_set] at hcalls
    split at hcalls
    · split at hcalls
      · obtain rfl := Option.some.inj hcalls
        exact hcomplete
      · cases hcalls
    · exact hb calls hcalls

/-- The start of all consumers goes on as `Starting` says. -/
theorem Runs.starting (h : Runs s₀ (b₀.start token).1 s b)
    (hearlier : ∀ x ∈ b₀.series, x.isOver = true) :
    ∃ calls, UnderWay token s₀ b₀.consumers b₀.series s b calls ∧ calls.IsComplete := by
  obtain ⟨⟨calls, hcalls⟩, hcomplete⟩ := h.preserves
    (P := fun s b => (∃ calls, UnderWay token s₀ b₀.consumers b₀.series s b calls) ∧
      ∀ calls, b.series[b₀.series.length]? = some calls → calls.IsComplete)
    (fun s b s' b' hnext ⟨⟨_, hcalls⟩, hcomplete⟩ =>
      ⟨hcalls.next hearlier hnext, hnext.isComplete hcomplete⟩)
    ⟨⟨_, underWay_start token s₀ b₀⟩, fun calls hcalls => by
      obtain rfl := Option.some.inj ((getElem?_series_last rfl).symm.trans hcalls)
      exact nofun⟩
  exact ⟨calls, hcalls, hcomplete calls (getElem?_series_last hcalls.series)⟩

/-- The stop of all consumers goes on as `Stopping` says. -/
theorem Runs.stopping (h : Runs s₀ b₀.stop.1 s b) (hearlier : ∀ x ∈ b₀.series, x.isOver = true) :
    ∃ calls results, StopsUnderWay s₀ b₀.consumers b₀.series s b calls results ∧
      calls.IsComplete := by
  obtain ⟨⟨calls, results, hcalls⟩, hcomplete⟩ := h.preserves
    (P := fun s b => (∃ calls results,
        StopsUnderWay s₀ b₀.consumers b₀.series s b calls results) ∧
      ∀ calls, b.series[b₀.series.length]? = some calls → calls.IsComplete)
    (fun s b s' b' hnext ⟨⟨_, _, hcalls⟩, hcomplete⟩ =>
      ⟨hcalls.next hearlier hnext, hnext.isComplete hcomplete⟩)
    ⟨⟨_, _, stopsUnderWay_stop s₀ b₀⟩, fun calls hcalls => by
      obtain rfl := Option.some.inj ((getElem?_series_last rfl).symm.trans hcalls)
      exact nofun⟩
  exact ⟨calls, results, hcalls, hcomplete calls (getElem?_series_last hcalls.series)⟩

/-! ## What is left to be done -/

/-- No watcher of a consumer has begun a rebuild. -/
def NoRebuild (b b' : Bus) : Prop :=
  b'.consumers.map Consumer.rebuilds = b.consumers.map Consumer.rebuilds

/-- How many steps there are at most to the end of some calls on all consumers, with the steps that
the consumers take for them. -/
def callsLeft (k : Nat) (b : Bus) : Nat :=
  12 * ((b.series[k]?).map Series.left).getD 0 + (b.consumers.map Consumer.stepsLeft).sum

theorem sum_stepsLeft_le {cs cs' : List Consumer}
    (h : List.Forall₂ (fun c c' => Site.Uncalled ⟨s, c⟩ ⟨s', c'⟩) cs cs')
    (hsame : cs'.map Consumer.rebuilds = cs.map Consumer.rebuilds) :
    (cs'.map Consumer.stepsLeft).sum ≤ (cs.map Consumer.stepsLeft).sum := by
  induction h with
  | nil => exact Nat.le_refl _
  | cons hfirst _ ih =>
    obtain ⟨hrebuilds, hrest⟩ := List.cons.inj hsame
    simp only [List.map_cons, List.sum_cons]
    exact Nat.add_le_add (hfirst.stepsLeft_le hrebuilds) (ih hrest)

/-- Calls make at most one call with a step, so no more than eleven steps are added. -/
theorem CallsStepped.stepsLeft_le (h : CallsStepped s b k calls s' b') :
    (b'.consumers.map Consumer.stepsLeft).sum ≤ (b.consumers.map Consumer.stepsLeft).sum + 11 := by
  cases h with
  | returned | ended => exact Nat.le_add_right _ _
  | @called i todo c c' _ _ _ hc hstep =>
    have hstepped := Consumer.stepped_of_step hstep
    have hcalls := hstepped.calls_le
    have hleft := hstepped.stepsLeft_le
    have hsum := sum_map_set Consumer.stepsLeft hc c'
    show ((b.consumers.set i c').map Consumer.stepsLeft).sum ≤ _
    omega

theorem CallsStepped.callsLeft_lt (h : CallsStepped s b k calls s' b')
    (hcalls : b.series[k]? = some calls) (hopen : calls.isOver = false) :
    b'.callsLeft k < b.callsLeft k := by
  obtain ⟨calls', hset, -, hleft⟩ := h.exists_set hopen
  have hk := (List.getElem?_eq_some_iff.1 hcalls).1
  have hsteps := h.stepsLeft_le
  unfold callsLeft
  rw [hset, List.getElem?_set_self hk, hcalls]
  simp only [Option.map_some, Option.getD_some]
  omega

/-- Nothing that happens adds to what is left of the last calls, while no rebuild begins. -/
theorem Next.callsLeft_le {earlier : List Series} (h : Next s b s' b')
    (hseries : b.series = earlier ++ [calls]) (hearlier : ∀ x ∈ earlier, x.isOver = true)
    (hsame : NoRebuild b b') : b'.callsLeft earlier.length ≤ b.callsLeft earlier.length := by
  rcases h.of_last hseries hearlier with hmoved | ⟨hopen, hstepped⟩
  · unfold callsLeft
    rw [hmoved.series]
    exact Nat.add_le_add_left (sum_stepsLeft_le hmoved.consumers hsame) _
  · exact (hstepped.callsLeft_lt (getElem?_series_last hseries) hopen).le

/-! ## Calls that go on -/

/-- Some calls can go on, or the call can that is under way; and less is left then. -/
inductive CallsGoOn (k : Nat) (s : Scene) (b : Bus) : Prop where
  | calls {s' : Scene} {b' : Bus} (hstep : b.seriesStep? s k = some (s', b'))
      (hleft : b'.callsLeft k < b.callsLeft k)
  | consumer {calls : Series} {i id : Nat} {c : Consumer} (hcalls : b.series[k]? = some calls)
      (hcurrent : calls.current = some (i, id)) (hc : b.consumers[i]? = some c)
      (hgoesOn : Site.CallGoesOn ⟨s, c⟩ id)

theorem callsGoOn_of_step (h : (b.seriesStep? s k).isSome = true) : CallsGoOn k s b := by
  obtain ⟨⟨s', b'⟩, hstep⟩ := Option.isSome_iff_exists.1 h
  obtain ⟨calls, hcalls, hopen, hstepped⟩ := callsStepped_of_seriesStep? hstep
  exact .calls hstep (hstepped.callsLeft_lt hcalls hopen)

/-- While nobody is called, the next consumer can be, or the calls come to their end. -/
theorem callsGoOn_of_none (hcalls : b.series[k]? = some calls) (hopen : calls.isOver = false)
    (hcurrent : calls.current = none) (htodo : ∀ i ∈ calls.todo, i < b.consumers.length) :
    CallsGoOn k s b := by
  refine callsGoOn_of_step ?_
  cases hrest : calls.todo with
  | nil => simp [seriesStep?, hcalls, hopen, hcurrent, hrest]
  | cons i rest =>
    have hi : i < b.consumers.length := htodo i (by simp [hrest])
    cases hkind : calls.kind <;>
      simp [seriesStep?, hcalls, hopen, hcurrent, hrest, hkind, List.getElem?_eq_getElem hi,
        Consumer.step]

/-- While a consumer is called, its call can go on, or it has returned. -/
theorem callsGoOn_of_some {i id : Nat} {u c : Consumer} {want : Want} {l : Consumer.Label}
    (hcalls : b.series[k]? = some calls) (hopen : calls.isOver = false)
    (hcurrent : calls.current = some (i, id)) (hc : b.consumers[i]? = some c)
    (hcourse : Course want u c) (hl : Begins l want) (hu : Numbered u) (hquiet : u.isQuiet = true)
    (hid : id = u.calls) (hnumbered : Numbered c) : CallsGoOn k s b := by
  subst hid
  by_cases hover : c.underWay = []
  · obtain ⟨result, hresult⟩ := hcourse.exists_result hu hover
    refine callsGoOn_of_step ?_
    simp [seriesStep?, hcalls, hopen, hcurrent, hc, hresult]
  · exact .consumer hcalls hcurrent hc
      (Course.callGoesOn (w := ⟨s, c⟩) hcourse hl hu hquiet hnumbered hover)

/-! ## Buses on which nothing is under way -/

/-- Nothing is under way on a bus, and its consumers are in states that they can come to. -/
structure Ready (s : Scene) (b : Bus) : Prop where
  series : ∀ x ∈ b.series, x.isOver = true
  reachable : ∀ c ∈ b.consumers, Site.IsReachable ⟨s, c⟩
  quiet : ∀ c ∈ b.consumers, c.isQuiet = true

/-- Afterwards nothing is under way on the consumer, which is in a state that it can come to. -/
def Rests (_ w' : Site) : Prop := w'.IsReachable ∧ w'.consumer.isQuiet = true

variable {P Q : Site → Site → Prop} {j : Nat} {result : Outcome}

/-- What follows for a consumer on which nothing was under way, while no rebuild begins. -/
theorem At.imp (h : At P s₀ b₀.consumers s b.consumers j) (hready : Ready s₀ b₀)
    (hsame : NoRebuild b₀ b)
    (hPQ : ∀ {w w'}, P w w' → w.IsReachable → w.consumer.isQuiet = true →
      w'.consumer.rebuilds = w.consumer.rebuilds → Q w w') :
    At Q s₀ b₀.consumers s b.consumers j := by
  intro c₀ c hc₀ hc
  have hmem := List.mem_of_getElem? hc₀
  refine hPQ (h c₀ c hc₀ hc) (hready.reachable c₀ hmem) (hready.quiet c₀ hmem) ?_
  have hrebuilds := congrArg (·[j]?) hsame
  simpa [hc₀, hc] using hrebuilds

theorem At.passedOver (h : At Site.Uncalled s₀ b₀.consumers s b.consumers j)
    (hready : Ready s₀ b₀) (hsame : NoRebuild b₀ b) :
    At Site.PassedOver s₀ b₀.consumers s b.consumers j ∧
      At Rests s₀ b₀.consumers s b.consumers j :=
  ⟨h.imp hready hsame fun hw _ => hw.passedOver, h.imp hready hsame fun hw hreach hquiet hsame =>
    ⟨hreach.uncalled hw, (hw.passedOver hquiet hsame).same.isQuiet hquiet⟩⟩

theorem At.hasStarted (h : At (Site.StartedWith token result) s₀ b₀.consumers s b.consumers j)
    (hready : Ready s₀ b₀) (hsame : NoRebuild b₀ b) :
    At (Site.HasStarted token result) s₀ b₀.consumers s b.consumers j ∧
      At Rests s₀ b₀.consumers s b.consumers j :=
  ⟨h.imp hready hsame fun hw hreach hquiet hsame => (hw.hasStarted hreach hquiet hsame).1,
    h.imp hready hsame fun hw hreach hquiet hsame => (hw.hasStarted hreach hquiet hsame).2⟩

theorem At.hasStopped (h : At (Site.CalledWith .stop result) s₀ b₀.consumers s b.consumers j)
    (hready : Ready s₀ b₀) (hsame : NoRebuild b₀ b) :
    At (Site.HasStopped result) s₀ b₀.consumers s b.consumers j ∧
      At Rests s₀ b₀.consumers s b.consumers j :=
  ⟨h.imp hready hsame fun hw hreach hquiet hsame => (hw.hasStopped hreach hquiet hsame).1,
    h.imp hready hsame fun hw hreach hquiet hsame => (hw.hasStopped hreach hquiet hsame).2⟩

/-- Where all consumers are at rest and all calls are over, the bus is ready. -/
theorem ready_of_rests (hlength : b.consumers.length = b₀.consumers.length)
    (hrests : ∀ j, At Rests s₀ b₀.consumers s b.consumers j)
    (hseries : ∀ x ∈ b.series, x.isOver = true) : Ready s b := by
  have hrest : ∀ c ∈ b.consumers, Site.IsReachable ⟨s, c⟩ ∧ c.isQuiet = true := by
    intro c hc
    obtain ⟨j, hj⟩ := List.getElem?_of_mem hc
    have hlt : j < b₀.consumers.length := hlength ▸ (List.getElem?_eq_some_iff.1 hj).1
    exact hrests j _ c (List.getElem?_eq_getElem hlt) hj
  exact ⟨hseries, fun c hc => (hrest c hc).1, fun c hc => (hrest c hc).2⟩

theorem result?_eq_some {earlier : List Series} {r : Outcome}
    (hseries : b.series = earlier ++ [calls]) :
    b.result? earlier.length = some r ↔ calls.isOver = true ∧ calls.result = r := by
  simp [result?, getElem?_series_last hseries]

theorem isOver_of_last {earlier : List Series} (hseries : b.series = earlier ++ [calls])
    (hearlier : ∀ x ∈ earlier, x.isOver = true) (hover : calls.isOver = true) :
    ∀ x ∈ b.series, x.isOver = true := by
  rw [hseries]
  simpa [or_imp, forall_and] using ⟨hearlier, hover⟩

/-! ## The laws -/

/-- How far calls have come that go through the consumers of a bus in order: with those before a
place they are done, the one there may be called now, and those behind it are passed over. -/
structure InOrder (l : Consumer.Label) (Done : Site → Site → Prop) (s₀ : Scene) (b₀ : Bus)
    (s : Scene) (b : Bus) (n : Nat) : Prop where
  before : ∀ j < n, At Done s₀ b₀.consumers s b.consumers j
  here : At (fun w w' => w.PassedOver w' ∨ ∃ id, w.CalledOnce l id w')
    s₀ b₀.consumers s b.consumers n
  behind : ∀ j, n < j → At Site.PassedOver s₀ b₀.consumers s b.consumers j

/-- What holds while a bus is started, and afterwards. -/
structure StartAllLaw (token : Token) (s₀ : Scene) (b₀ : Bus) (s : Scene) (b : Bus) : Prop where
  length : b.consumers.length = b₀.consumers.length
  inOrder : ∃ n, InOrder (.start token) (Site.HasStarted token (.ok ())) s₀ b₀ s b n
  /-- Until there is a result the calls can go on, with less left to be done, ... -/
  goesOn : b.result? b₀.series.length = none → CallsGoOn b₀.series.length s b
  /-- ... and nothing adds to it. -/
  nearer : ∀ s' b', Next s b s' b' → NoRebuild b b' →
    b'.callsLeft b₀.series.length ≤ b.callsLeft b₀.series.length
  /-- An error is the one of the first consumer whose start has failed: those before it are running
  with a subscription, it is idle with none, and those behind it are passed over. -/
  failed : ∀ e, b.result? b₀.series.length = some (.error e) →
    ∃ n < b₀.consumers.length,
      (∀ j < n, At (Site.HasStarted token (.ok ())) s₀ b₀.consumers s b.consumers j) ∧
      At (Site.HasStarted token (.error e)) s₀ b₀.consumers s b.consumers n ∧
      ∀ j, n < j → At Site.PassedOver s₀ b₀.consumers s b.consumers j
  /-- All is well if and only if all consumers have started. -/
  succeeded : ∀ r, b.result? b₀.series.length = some r → (r = .ok () ↔
    ∀ j < b₀.consumers.length,
      At (Site.HasStarted token (.ok ())) s₀ b₀.consumers s b.consumers j)
  ready : (b.result? b₀.series.length).isSome = true → Ready s b

/-- What holds while a bus is stopped, and afterwards. -/
structure StopAllLaw (s₀ : Scene) (b₀ : Bus) (s : Scene) (b : Bus) : Prop where
  length : b.consumers.length = b₀.consumers.length
  inOrder : ∃ n, InOrder .stop (fun w w' => ∃ r, w.HasStopped r w') s₀ b₀ s b n
  /-- Until there is a result the calls can go on, with less left to be done, ... -/
  goesOn : b.result? b₀.series.length = none → CallsGoOn b₀.series.length s b
  /-- ... and nothing adds to it. -/
  nearer : ∀ s' b', Next s b s' b' → NoRebuild b b' →
    b'.callsLeft b₀.series.length ≤ b.callsLeft b₀.series.length
  /-- Then all consumers were stopped and are shut, and it is the first error of the stops. -/
  stopped : ∀ r, b.result? b₀.series.length = some r →
    ∃ results : List Outcome, results.length = b₀.consumers.length ∧
      (∀ j r', results[j]? = some r' →
        At (Site.HasStopped r') s₀ b₀.consumers s b.consumers j) ∧
      (∀ c ∈ b.consumers, Shut ⟨s, c⟩) ∧ r = firstError results
  /-- A stop that comes after it returns that all is well. -/
  again : (b.result? b₀.series.length).isSome = true → ∀ s₁ b₁ s₂ b₂ r, Runs s b s₁ b₁ →
    Runs s₁ b₁.stop.1 s₂ b₂ → b₂.result? b₁.series.length = some r → r = .ok ()
  ready : (b.result? b₀.series.length).isSome = true → Ready s b

/-- What holds of the calls on all consumers of a bus on which nothing is under way, as long as no
watcher begins a rebuild. -/
structure CallsLaw (s₀ : Scene) (b₀ : Bus) : Prop where
  starts : ∀ token s b, Runs s₀ (b₀.start token).1 s b → NoRebuild b₀ b →
    StartAllLaw token s₀ b₀ s b
  stops : ∀ s b, Runs s₀ b₀.stop.1 s b → NoRebuild b₀ b → StopAllLaw s₀ b₀ s b

/-- What is said of the consumer at a place is said of one. -/
theorem At.exists_consumer (h : At P s₀ b₀.consumers s b.consumers j)
    (hlength : b.consumers.length = b₀.consumers.length) (hj : j < b.consumers.length) :
    ∃ c₀ c, b₀.consumers[j]? = some c₀ ∧ b.consumers[j]? = some c ∧ P ⟨s₀, c₀⟩ ⟨s, c⟩ := by
  have hc := List.getElem?_eq_getElem hj
  have hc₀ := List.getElem?_eq_getElem (hlength ▸ hj)
  exact ⟨_, _, hc₀, hc, h _ _ hc₀ hc⟩

theorem isOver_of_result? {earlier : List Series} (hseries : b.series = earlier ++ [calls])
    (hnone : b.result? earlier.length = none) : calls.isOver = false := by
  cases hover : calls.isOver with
  | false => rfl
  | true =>
    rw [(result?_eq_some hseries).2 ⟨hover, rfl⟩] at hnone
    cases hnone

/-- While a consumer is called, the calls can go on, or its call can. -/
theorem At.callsGoOn {n id : Nat} {l : Consumer.Label} {want : Want}
    (h : At (Site.CalledOnce l id) s₀ b₀.consumers s b.consumers n) (hl : Begins l want)
    (hready : Ready s₀ b₀) (hsame : NoRebuild b₀ b)
    (hlength : b.consumers.length = b₀.consumers.length) (hn : n < b.consumers.length)
    (hcalls : b.series[k]? = some calls) (hopen : calls.isOver = false)
    (hcurrent : calls.current = some (n, id)) : CallsGoOn k s b := by
  have hcourse : At (fun w w' => id = w.consumer.calls ∧ w'.IsReachable ∧
      Course want w.consumer w'.consumer) s₀ b₀.consumers s b.consumers n :=
    h.imp hready hsame fun hw hreach hquiet hsame => hw.course hl hreach hquiet hsame
  obtain ⟨c₀, c, hc₀, hc, hid, hreach, hcourse⟩ := hcourse.exists_consumer hlength hn
  have hmem := List.mem_of_getElem? hc₀
  exact callsGoOn_of_some hcalls hopen hcurrent hc hcourse hl (hready.reachable c₀ hmem).numbered
    (hready.quiet c₀ hmem) hid hreach.numbered

/-! ## Starts -/

theorem mem_range'_lt {n m i : Nat} (h : i ∈ List.range' n (m - n)) : i < m := by
  rw [List.mem_range'_1] at h
  omega

section Starts

variable (h : UnderWay token s₀ b₀.consumers b₀.series s b calls) (hready : Ready s₀ b₀)
  (hsame : NoRebuild b₀ b)

include h hready hsame

theorem UnderWay.inOrder :
    ∃ n, InOrder (.start token) (Site.HasStarted token (.ok ())) s₀ b₀ s b n := by
  have hstarting := h.starting
  generalize calls.todo = todo, calls.current = current, calls.failure = failure at hstarting
  cases hstarting with
  | @between n hbefore hbehind =>
    exact ⟨n, fun j hj => ((hbefore j hj).hasStarted hready hsame).1,
      (hbehind n (Nat.le_refl n)).imp hready hsame fun hw _ hquiet hsame =>
        .inl (hw.passedOver hquiet hsame),
      fun j hj => ((hbehind j hj.le).passedOver hready hsame).1⟩
  | @calling n id hn hbefore hcalled hbehind =>
    exact ⟨n, fun j hj => ((hbefore j hj).hasStarted hready hsame).1,
      hcalled.imp hready hsame fun hw _ _ _ => .inr ⟨id, hw⟩,
      fun j hj => ((hbehind j hj).passedOver hready hsame).1⟩
  | @failed n e hn hbefore hfailed hbehind =>
    exact ⟨n, fun j hj => ((hbefore j hj).hasStarted hready hsame).1,
      hfailed.imp hready hsame fun ⟨id, hcalled, _⟩ _ _ _ => .inr ⟨id, hcalled⟩,
      fun j hj => ((hbehind j hj).passedOver hready hsame).1⟩

theorem UnderWay.goesOn (hopen : calls.isOver = false) :
    CallsGoOn b₀.series.length s b := by
  have hlast := getElem?_series_last h.series
  have hstarting := h.starting
  generalize htodo : calls.todo = todo, hcurrent : calls.current = current,
    calls.failure = failure at hstarting
  cases hstarting with
  | between =>
    exact callsGoOn_of_none hlast hopen hcurrent fun i hi => mem_range'_lt (htodo ▸ hi)
  | calling hn _ hcalled =>
    exact At.callsGoOn hcalled .start hready hsame h.length hn hlast hopen hcurrent
  | failed => exact callsGoOn_of_none hlast hopen hcurrent (by simp [htodo])

theorem UnderWay.hasFailed {e : BusError}
    (hresult : b.result? b₀.series.length = some (.error e)) :
    ∃ n < b₀.consumers.length,
      (∀ j < n, At (Site.HasStarted token (.ok ())) s₀ b₀.consumers s b.consumers j) ∧
      At (Site.HasStarted token (.error e)) s₀ b₀.consumers s b.consumers n ∧
      ∀ j, n < j → At Site.PassedOver s₀ b₀.consumers s b.consumers j := by
  obtain ⟨-, n, hn, hhalted⟩ := h.of_error hresult
  exact ⟨n, hn, fun j hj => ((hhalted.before j hj).hasStarted hready hsame).1,
    (hhalted.failed.hasStarted hready hsame).1,
    fun j hj => ((hhalted.behind j hj).passedOver hready hsame).1⟩

theorem UnderWay.allStarted (hnobody : calls.todo = []) (hidle : calls.current = none)
    (hok : calls.result = .ok ()) {j : Nat} (hj : j < b₀.consumers.length) :
    At (Site.HasStarted token (.ok ())) s₀ b₀.consumers s b.consumers j := by
  have hstarting := h.starting
  rw [hidle] at hstarting
  generalize htodo : calls.todo = todo, hfailure : calls.failure = failure at hstarting
  cases hstarting with
  | @between n hbefore =>
    rw [htodo, List.range'_eq_nil_iff] at hnobody
    have hlength := h.length
    exact ((hbefore j (by omega)).hasStarted hready hsame).1
  | failed =>
    rw [Series.result, hfailure] at hok
    cases hok

theorem UnderWay.rests (hidle : calls.current = none) (j : Nat) :
    At Rests s₀ b₀.consumers s b.consumers j := by
  have hstarting := h.starting
  rw [hidle] at hstarting
  generalize calls.todo = todo, calls.failure = failure at hstarting
  cases hstarting with
  | @between n hbefore hbehind =>
    rcases Nat.lt_or_ge j n with hj | hj
    · exact ((hbefore j hj).hasStarted hready hsame).2
    · exact ((hbehind j hj).passedOver hready hsame).2
  | @failed n e hn hbefore hfailed hbehind =>
    rcases Nat.lt_trichotomy j n with hj | rfl | hj
    · exact ((hbefore j hj).hasStarted hready hsame).2
    · exact (hfailed.hasStarted hready hsame).2
    · exact ((hbehind j hj).passedOver hready hsame).2

end Starts

theorem Runs.startAllLaw (hruns : Runs s₀ (b₀.start token).1 s b) (hready : Ready s₀ b₀)
    (hsame : NoRebuild b₀ b) : StartAllLaw token s₀ b₀ s b := by
  obtain ⟨calls, h, hcomplete⟩ := hruns.starting hready.series
  constructor
  case length => exact h.length
  case inOrder => exact h.inOrder hready hsame
  case goesOn => exact fun hnone => h.goesOn hready hsame (isOver_of_result? h.series hnone)
  case nearer => exact fun _ _ hnext => hnext.callsLeft_le h.series hready.series
  case failed => exact fun e hresult => h.hasFailed hready hsame hresult
  case succeeded =>
    intro r hresult
    obtain ⟨hover, hr⟩ := (result?_eq_some h.series).1 hresult
    obtain ⟨hnobody, hidle⟩ := hcomplete hover
    refine ⟨fun hok j hj => h.allStarted hready hsame hnobody hidle (hr.trans hok) hj,
      fun hall => ?_⟩
    cases r with
    | ok => rfl
    | error e =>
      -- the one that has failed is not running
      obtain ⟨n, hn, -, hfailed, -⟩ := h.hasFailed hready hsame hresult
      obtain ⟨c₀, c, hc₀, hc, hidle⟩ := hfailed.exists_consumer h.length (h.length ▸ hn)
      have hrunning := (hall n hn c₀ c hc₀ hc).status
      rw [hidle.status] at hrunning
      cases hrunning
  case ready =>
    intro hsome
    obtain ⟨r, hresult⟩ := Option.isSome_iff_exists.1 hsome
    obtain ⟨hover, -⟩ := (result?_eq_some h.series).1 hresult
    exact ready_of_rests h.length (h.rests hready hsame (hcomplete hover).2)
      (isOver_of_last h.series hready.series hover)

/-! ## Stops -/

/-- When the stop of all consumers has a result, all of them were called, and it is the first
error. -/
theorem StopsUnderWay.of_result? {earlier : List Series} {results : List Outcome} {r : Outcome}
    (h : StopsUnderWay s₀ b₀.consumers earlier s b calls results) (hcomplete : calls.IsComplete)
    (hresult : b.result? earlier.length = some r) :
    results.length = b₀.consumers.length ∧ StopsReturned s₀ b₀.consumers s b.consumers results ∧
      r = firstError results := by
  obtain ⟨hover, rfl⟩ := (result?_eq_some h.series).1 hresult
  obtain ⟨hnobody, hidle⟩ := hcomplete hover
  have hstopping := h.stopping
  rw [hnobody, hidle] at hstopping
  generalize htodo : ([] : List Nat) = todo at hstopping
  cases hstopping with
  | between hle hreturned =>
    have hlength := List.range'_eq_nil_iff.1 htodo.symm
    exact ⟨by rw [← h.length]; omega, hreturned, h.result⟩

/-- A stop of consumers on which a stop is over returns that all is well. -/
theorem Runs.eq_ok (h : Runs s₀ b₀.stop.1 s b) (hearlier : ∀ x ∈ b₀.series, x.isOver = true)
    (hretired : ∀ c ∈ b₀.consumers, Site.IsReachable ⟨s₀, c⟩ ∧ Consumer.Retired c)
    (hresult : b.result? b₀.series.length = some result) : result = .ok () := by
  obtain ⟨calls, results, hcalls, hcomplete⟩ := h.stopping hearlier
  obtain ⟨hlength, hreturned, rfl⟩ := hcalls.of_result? hcomplete hresult
  refine firstError_eq_ok fun r hr => ?_
  obtain ⟨j, hj⟩ := List.getElem?_of_mem hr
  have hlt := (List.getElem?_eq_some_iff.1 hj).1
  obtain ⟨c₀, c, hc₀, hc, hcalled⟩ :=
    (hreturned j r hj).exists_consumer hcalls.length (by rw [hcalls.length, ← hlength]; exact hlt)
  obtain ⟨hreach, hretired⟩ := hretired c₀ (List.mem_of_getElem? hc₀)
  exact hcalled.eq_ok hreach hretired

/-- While nobody calls them, consumers on which a stop is over stay so. -/
theorem Runs.retired (h : Runs s b s' b') (hseries : ∀ x ∈ b.series, x.isOver = true)
    (hretired : ∀ c ∈ b.consumers, Site.IsReachable ⟨s, c⟩ ∧ Consumer.Retired c) :
    (∀ x ∈ b'.series, x.isOver = true) ∧
      ∀ c ∈ b'.consumers, Site.IsReachable ⟨s', c⟩ ∧ Consumer.Retired c := by
  refine h.preserves (P := fun s b => (∀ x ∈ b.series, x.isOver = true) ∧
    ∀ c ∈ b.consumers, Site.IsReachable ⟨s, c⟩ ∧ Consumer.Retired c) ?_ ⟨hseries, hretired⟩
  rintro s b s' b' hnext ⟨hseries, hretired⟩
  cases hnext with
  | called hc hopen =>
    rw [hseries _ (List.mem_of_getElem? hc)] at hopen
    cases hopen
  | moved hmoved =>
    refine ⟨hmoved.series ▸ hseries, fun c hc => ?_⟩
    obtain ⟨j, hj', rfl⟩ := List.getElem_of_mem hc
    have hj : j < b.consumers.length := hmoved.consumers.length_eq ▸ hj'
    have huncalled : Site.Uncalled ⟨s, b.consumers[j]⟩ ⟨s', b'.consumers[j]⟩ :=
      hmoved.consumers.get hj hj'
    obtain ⟨hreach, hretired⟩ := hretired _ (List.getElem_mem hj)
    exact ⟨hreach.uncalled huncalled, huncalled.retired hretired⟩

theorem StopsReturned.hasStopped {results : List Outcome}
    (h : StopsReturned s₀ b₀.consumers s b.consumers results) (hready : Ready s₀ b₀)
    (hsame : NoRebuild b₀ b) (hj : j < results.length) :
    At (fun w w' => ∃ r, w.HasStopped r w') s₀ b₀.consumers s b.consumers j ∧
      At Rests s₀ b₀.consumers s b.consumers j := by
  obtain ⟨hstopped, hrests⟩ := (h j _ (List.getElem?_eq_getElem hj)).hasStopped hready hsame
  exact ⟨hstopped.imp hready hsame fun hw _ _ _ => ⟨_, hw⟩, hrests⟩

section Stops

variable {results : List Outcome}
  (h : StopsUnderWay s₀ b₀.consumers b₀.series s b calls results) (hready : Ready s₀ b₀)
  (hsame : NoRebuild b₀ b)

include h hready hsame

theorem StopsUnderWay.inOrder :
    ∃ n, InOrder .stop (fun w w' => ∃ r, w.HasStopped r w') s₀ b₀ s b n := by
  have hstopping := h.stopping
  generalize calls.todo = todo, calls.current = current at hstopping
  refine ⟨results.length, ?_⟩
  cases hstopping with
  | between hle hreturned hbehind =>
    exact ⟨fun j hj => (hreturned.hasStopped hready hsame hj).1,
      (hbehind _ (Nat.le_refl _)).imp hready hsame fun hw _ hquiet hsame =>
        .inl (hw.passedOver hquiet hsame),
      fun j hj => ((hbehind j hj.le).passedOver hready hsame).1⟩
  | @calling id hlt hreturned hcalled hbehind =>
    exact ⟨fun j hj => (hreturned.hasStopped hready hsame hj).1,
      hcalled.imp hready hsame fun hw _ _ _ => .inr ⟨id, hw⟩,
      fun j hj => ((hbehind j hj).passedOver hready hsame).1⟩

theorem StopsUnderWay.goesOn (hopen : calls.isOver = false) :
    CallsGoOn b₀.series.length s b := by
  have hlast := getElem?_series_last h.series
  have hstopping := h.stopping
  generalize htodo : calls.todo = todo, hcurrent : calls.current = current at hstopping
  cases hstopping with
  | between =>
    exact callsGoOn_of_none hlast hopen hcurrent fun i hi => mem_range'_lt (htodo ▸ hi)
  | calling hlt _ hcalled =>
    exact hcalled.callsGoOn .stop hready hsame h.length hlt hlast hopen hcurrent

theorem StopsUnderWay.rests (hidle : calls.current = none) (j : Nat) :
    At Rests s₀ b₀.consumers s b.consumers j := by
  have hstopping := h.stopping
  rw [hidle] at hstopping
  generalize calls.todo = todo at hstopping
  cases hstopping with
  | between hle hreturned hbehind =>
    rcases Nat.lt_or_ge j results.length with hj | hj
    · exact (hreturned.hasStopped hready hsame hj).2
    · exact ((hbehind j hj).passedOver hready hsame).2

end Stops

theorem Runs.stopAllLaw (hruns : Runs s₀ b₀.stop.1 s b) (hready : Ready s₀ b₀)
    (hsame : NoRebuild b₀ b) : StopAllLaw s₀ b₀ s b := by
  obtain ⟨calls, results, h, hcomplete⟩ := hruns.stopping hready.series
  have hreadyAfter : (b.result? b₀.series.length).isSome = true → Ready s b := by
    intro hsome
    obtain ⟨r, hresult⟩ := Option.isSome_iff_exists.1 hsome
    obtain ⟨hover, -⟩ := (result?_eq_some h.series).1 hresult
    exact ready_of_rests h.length (h.rests hready hsame (hcomplete hover).2)
      (isOver_of_last h.series hready.series hover)
  have hshut : (b.result? b₀.series.length).isSome = true → ∀ c ∈ b.consumers, Shut ⟨s, c⟩ := by
    intro hsome c hc
    obtain ⟨r, hresult⟩ := Option.isSome_iff_exists.1 hsome
    obtain ⟨hlength, hreturned, -⟩ := h.of_result? hcomplete hresult
    obtain ⟨j, hj⟩ := List.getElem?_of_mem hc
    have hlt := (List.getElem?_eq_some_iff.1 hj).1
    have hstopped := (hreturned.hasStopped hready hsame (by rw [hlength, ← h.length]; exact hlt)).1
    obtain ⟨c₀, c', -, hc', r', hstopped⟩ := hstopped.exists_consumer h.length hlt
    obtain rfl := Option.some.inj (hj.symm.trans hc')
    exact hstopped.shut
  constructor
  case length => exact h.length
  case inOrder => exact h.inOrder hready hsame
  case goesOn => exact fun hnone => h.goesOn hready hsame (isOver_of_result? h.series hnone)
  case nearer => exact fun _ _ hnext => hnext.callsLeft_le h.series hready.series
  case stopped =>
    intro r hresult
    obtain ⟨hlength, hreturned, hr⟩ := h.of_result? hcomplete hresult
    exact ⟨results, hlength, fun j r' hr' => ((hreturned j r' hr').hasStopped hready hsame).1,
      hshut (by rw [hresult]; rfl), hr⟩
  case again =>
    intro hsome s₁ b₁ s₂ b₂ r hbetween hagain hresult
    have hrest := hreadyAfter hsome
    obtain ⟨hseries, hretired⟩ := hbetween.retired hrest.series fun c hc =>
      ⟨hrest.reachable c hc, (hshut hsome c hc).retired (hrest.reachable c hc) (hrest.quiet c hc)⟩
    exact hagain.eq_ok hseries hretired hresult
  case ready => exact hreadyAfter

/-! ## The theorem -/

/-- Where nothing is under way on a bus, whatever has happened to its consumers and whatever the
broker answers: starting it starts the consumers in order up to the first that fails, stopping it
stops and shuts all of them, and the results are those of the first failure. -/
theorem calls_law (hready : Ready s₀ b₀) : CallsLaw s₀ b₀ where
  starts _ _ _ hruns hsame := hruns.startAllLaw hready hsame
  stops _ _ hruns hsame := hruns.stopAllLaw hready hsame

/-- A bus that nobody has started, at a broker that refuses the queue of its second consumer. -/
def unstarted : Application :=
  match Connection.establish { reconnecting := false } Application.refusingQueue with
  | (.ok connection, scene) =>
    { scene
      buses := [{ connection
                  consumers := fresh ⟨Catalogue.usual⟩ [.ofMessageType "orderCreated",
                    .ofMessageType "priceChanged", .ofMessageType "orderShipped"]
                  producer := .ofSettings connection.settings [] [] }] }
  | (.error _, scene) => { scene }

theorem ready_unstarted (hb : b ∈ unstarted.buses) : Ready unstarted.scene b := by
  unfold unstarted at hb ⊢
  split at hb
  · rw [List.mem_singleton] at hb
    subst hb
    constructor
    · exact nofun
    · intro c hc
      obtain ⟨settings, -, rfl⟩ := List.mem_map.1 hc
      exact ⟨settings, _, [], _, [], rfl⟩
    · intro c hc
      obtain ⟨settings, -, rfl⟩ := List.mem_map.1 hc
      rfl
  · cases hb

/-- The laws for that bus: its start fails at the second consumer, and then it is stopped. -/
theorem calls_law_unstarted :
    let a := unstarted
    let r := a.callOn 60 0 (·.start 0)
    let r' := r.2.callOn 60 0 Bus.stop
    r.1 = some (.error (.queueDeclaration "price_changed_queue")) ∧ r'.1 = some (.ok ()) ∧
      ∃ b₀ b b', a.buses[0]? = some b₀ ∧ r.2.buses[0]? = some b ∧ r'.2.buses[0]? = some b' ∧
        Ready a.scene b₀ ∧ NoRebuild b₀ b ∧ StartAllLaw 0 a.scene b₀ r.2.scene b ∧
        Ready r.2.scene b ∧ NoRebuild b b' ∧ StopAllLaw r.2.scene b r'.2.scene b' := by
  intro a r r'
  have hfailed : r.1 = some (.error (.queueDeclaration "price_changed_queue")) := by
    decide +kernel
  have hstopped : r'.1 = some (.ok ()) := by decide +kernel
  have hsame : a.buses.map (·.consumers.map Consumer.rebuilds) = [[0, 0, 0]] ∧
      r.2.buses.map (·.consumers.map Consumer.rebuilds) = [[0, 0, 0]] ∧
      r'.2.buses.map (·.consumers.map Consumer.rebuilds) = [[0, 0, 0]] := by
    decide +kernel
  obtain ⟨b₀, hb₀⟩ : ∃ b₀, a.buses[0]? = some b₀ :=
    Option.isSome_iff_exists.1 (by decide +kernel)
  have hready : ∀ b ∈ a.buses, Ready a.scene b := fun b => ready_unstarted
  clear_value a
  obtain ⟨b, hb, hruns, hresult⟩ := exists_runs_callOn 60 (·.start 0) hb₀ hfailed
  obtain ⟨b', hb', hruns', hresult'⟩ := exists_runs_callOn 60 Bus.stop hb hstopped
  have hnone {a : Application} {b : Bus} (hb : a.buses[0]? = some b)
      (h : a.buses.map (·.consumers.map Consumer.rebuilds) = [[0, 0, 0]]) :
      b.consumers.map Consumer.rebuilds = [0, 0, 0] := by
    have hfirst : (a.buses.map (·.consumers.map Consumer.rebuilds))[0]? = some [0, 0, 0] := by
      rw [h]
      rfl
    rw [List.getElem?_map, hb] at hfirst
    exact Option.some.inj hfirst
  have hsame₀ : NoRebuild b₀ b := (hnone hb hsame.2.1).trans (hnone hb₀ hsame.1).symm
  have hsame₁ : NoRebuild b b' := (hnone hb' hsame.2.2).trans (hnone hb hsame.2.1).symm
  have hready₀ := hready b₀ (List.mem_of_getElem? hb₀)
  have hstart := (calls_law hready₀).starts 0 _ b hruns hsame₀
  have hready₁ := hstart.ready (Option.isSome_iff_exists.2 ⟨_, hresult⟩)
  exact ⟨hfailed, hstopped, b₀, b, b', hb₀, hb, hb', hready₀, hsame₀, hstart, hready₁, hsame₁,
    (calls_law hready₁).stops _ b' hruns' hsame₁⟩

end Bus

end MessageBus
