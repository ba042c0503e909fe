import MessageBus.Proofs.Consumer.Watch

/-!
# Stages and the calls under way

The stage of a consumer follows the calls that are under way, and so does its slot.
`turned_of_stepped` says what a step can do to all of them. In every history a consumer that is
starting has a start under way, one that is stopped is as a stop has left it, and a watcher that
rebuilds has exactly one rebuild under way (`staged_after`).
-/

set_option autoImplicit false

namespace MessageBus

/-- What a call wants, whatever token it works below. -/
inductive Want where
  | start
  | stop
  /-- A new subscription, for a watcher. -/
  | rebuild (watcher : Nat)
deriving DecidableEq

/-- What a call with a purpose wants. -/
def Purpose.want : Purpose → Want
  | .start _ => .start
  | .stop => .stop
  | .rebuild watcher => .rebuild watcher

theorem Purpose.eq_rebuild_of_want {p : Purpose} {watcher : Nat} (h : p.want = .rebuild watcher) :
    p = .rebuild watcher := by
  cases p with
  | start | stop => cases h
  | rebuild => exact congrArg Purpose.rebuild (Want.rebuild.inj h)

namespace Consumer

/-- The calls that are under way: those in line, and the starts that have not looked for a
watcher. -/
def underWay (c : Consumer) : List Want :=
  c.inLine.map (fun call => call.purpose.want) ++ List.replicate c.entering.length .start

/-- Whether a watcher waits for the end of a rebuild. -/
def isRebuilding (c : Consumer) (watcher : Nat) : Bool :=
  (c.watchers[watcher]?).any fun w => w.phase = .rebuilding

theorem isQuiet_iff {c : Consumer} :
    c.isQuiet = true ↔ c.entering = [] ∧ c.waiting = [] ∧ c.active = none := by
  simp only [isQuiet, Bool.and_eq_true, List.isEmpty_iff, Option.isNone_iff_eq_none, and_assoc]

theorem underWay_eq_nil {c : Consumer} : c.underWay = [] ↔ c.isQuiet = true := by
  unfold underWay inLine isQuiet
  cases c.active <;> cases c.waiting <;> cases c.entering <;> simp

/-! ## What a step does to them -/

/-- Nothing becomes of the watchers, but that a start makes one. -/
structure SameWatch (c c' : Consumer) : Prop where
  rebuilding : ∀ i, c'.isRebuilding i = c.isRebuilding i
  length : c'.watchers.length = c.watchers.length ∨ .start ∈ c.underWay

/-- What a step can do to the stage, the slot and the calls under way. -/
inductive Turned (s : Scene) (c : Consumer) (l : Label) (c' : Consumer) : Prop where
  | keeps (hstatus : c'.status = c.status) (hslot : c'.slot = c.slot) (hcalls : c'.calls = c.calls)
      (hunderWay : c'.underWay = c.underWay) (hwatch : SameWatch c c')
  /-- The first call takes the lock. -/
  | takes (hstatus : c'.status = c.status) (hslot : c'.slot = none) (hsome : c.underWay ≠ [])
      (hunderWay : c'.underWay = c.underWay) (hwatch : SameWatch c c')
  | starts (hl : l.isStart = true) (hstatus : c'.status = .starting)
      (hunderWay : c'.underWay = c.underWay ++ [.start]) (hwatch : SameWatch c c')
  | stops (hl : l = .stop) (hstatus : c'.status = .stopping)
      (hunderWay : ∃ front back, c.underWay = front ++ back ∧ c'.underWay = front ++ .stop :: back)
      (hwatch : SameWatch c c')
  | rebuilds {i : Nat} {w : Watcher} (hw : c.watchers[i]? = some w) (hphase : w.phase = .listening)
      (hlive : s.isCancelled w.token = false) (hadmits : c.status.admitsRebuild = true)
      (hstatus : c'.status = .resubscribing)
      (hunderWay : ∃ front back,
        c.underWay = front ++ back ∧ c'.underWay = front ++ .rebuild i :: back)
      (hrebuilding : ∀ j, c'.isRebuilding j = (decide (j = i) || c.isRebuilding j))
      (hlength : c'.watchers.length = c.watchers.length)
  /-- The first call finds that a stop has begun. -/
  | declines {want : Want} (hstopping : c.status.isStopping = true) (hstatus : c'.status = c.status)
      (hslot : c'.slot = c.slot) (hunderWay : c.underWay = want :: c'.underWay)
      (hrebuilding : ∀ j, c'.isRebuilding j = (decide (want ≠ .rebuild j) && c.isRebuilding j))
  /-- The call that holds the lock comes to its end, with a new subscription or none. -/
  | ends {p : Purpose} {result : Outcome} (hstatus : c'.status = p.stageAfter result c.status)
      (hslot : c'.slot.isSome = result.isOk) (hunderWay : c.underWay = p.want :: c'.underWay)
      (hrebuilding : ∀ j, c'.isRebuilding j = (decide (p.want ≠ .rebuild j) && c.isRebuilding j))
  | retires (hl : l = .retire) (hstatus : c'.status = .stopped)
      (hunderWay : c.underWay = .stop :: c'.underWay) (hwatch : SameWatch c c')

variable {s s' : Scene} {c c' : Consumer} {call : Call} {l : Label} {w w' : Site} {e : Event}

theorem underWay_of_active {phase : CallPhase} (h : c.active = some (call, phase)) :
    c.underWay = call.purpose.want ::
      (c.waiting.map (fun call => call.purpose.want) ++
        List.replicate c.entering.length .start) := by
  unfold underWay
  rw [inLine_of_active h]
  rfl

theorem underWay_of_none (h : c.active = none) :
    c.underWay = c.waiting.map (fun call => call.purpose.want) ++
      List.replicate c.entering.length .start := by
  unfold underWay
  rw [inLine_of_none h]

theorem sameWatch_of_eq (h : c'.watchers = c.watchers) : SameWatch c c' where
  rebuilding i := by unfold isRebuilding; rw [h]
  length := .inl (by rw [h])

/-- A watcher that listens reads something, or goes. -/
theorem sameWatch_set {i : Nat} {x x' : Watcher} (hx : c.watchers[i]? = some x)
    (hphase : x.phase = .listening) (hphase' : x'.phase ≠ .rebuilding)
    (h : c'.watchers = c.watchers.set i x') : SameWatch c c' where
  rebuilding j := by
    unfold isRebuilding
    rw [h, List.getElem?_set]
    split
    · next heq =>
      subst heq
      split <;> simp [hx, hphase, hphase']
    · rfl
  length := .inl (by rw [h, List.length_set])

theorem sameWatch_map {f : Watcher → Watcher} (h : c'.watchers = c.watchers.map f)
    (hf : ∀ x, (f x).phase = x.phase) : SameWatch c c' where
  rebuilding j := by
    unfold isRebuilding
    rw [h, List.getElem?_map]
    cases c.watchers[j]? <;> simp [hf]
  length := .inl (by rw [h, List.length_map])

/-- The watcher that a call was made for listens again when it is over. -/
theorem isRebuilding_concluded (c : Consumer) (call : Call) (result : Outcome) (j : Nat) :
    (c.concluded call result).isRebuilding j =
      (decide (call.purpose.want ≠ .rebuild j) && c.isRebuilding j) := by
  obtain ⟨id, p⟩ := call
  unfold isRebuilding concluded
  cases p with
  | start | stop => simp [Purpose.release, Purpose.want]
  | rebuild i =>
    simp only [Purpose.release, Purpose.want, List.getElem?_modify]
    by_cases hij : i = j
    · subst hij
      cases c.watchers[i]? <;> simp
    · cases c.watchers[j]? <;> simp [hij]

theorem stageAfter_of_isStopping (p : Purpose) (result : Outcome) {status : ConsumerStatus}
    (h : status.isStopping = true) : p.stageAfter result status = status := by
  cases status with
  | stopping | stopped => cases p <;> cases result <;> rfl
  | idle | starting | running | resubscribing => cases h

theorem turned_of_stepped (hslot : c.active.isSome = true → c.slot = none)
    (hretiring : ∀ call result, c.active = some (call, .retiring result) → call.purpose = .stop)
    (h : Stepped s c l s' c') : Turned s c l c' := by
  cases h with
  | start =>
    refine .starts rfl rfl ?_ (sameWatch_of_eq rfl)
    simp [underWay, inLine, List.replicate_succ']
  | stop =>
    refine .stops rfl rfl ⟨c.inLine.map fun call => call.purpose.want, _, rfl, ?_⟩
      (sameWatch_of_eq rfl)
    simp [underWay, inLine, Purpose.want]
  | found hentering =>
    refine .keeps rfl rfl rfl ?_ (sameWatch_of_eq rfl)
    simp [underWay, inLine, hentering, Purpose.want, List.replicate_succ]
  | hired hentering =>
    refine .keeps rfl rfl rfl ?_ ⟨?_, .inr ?_⟩
    · simp [underWay, inLine, hentering, Purpose.want, List.replicate_succ]
    · -- the new watcher is the last one, and rebuilds nothing
      intro i
      unfold isRebuilding
      rw [List.getElem?_append]
      split
      · rfl
      · next hi =>
        rw [List.getElem?_eq_none (Nat.le_of_not_lt hi), List.getElem?_singleton]
        split <;> rfl
    · simp [underWay, hentering]
  | @declined call waiting _ _ hnone hwaiting _ hstopping =>
    have hunderWay : c.underWay =
        call.purpose.want :: ({ c with waiting }.concluded call (.ok ())).underWay := by
      rw [underWay_of_none hnone, underWay_of_none rfl, hwaiting]
      rfl
    exact .declines hstopping (stageAfter_of_isStopping _ _ hstopping) rfl hunderWay
      (isRebuilding_concluded _ _ _)
  | vacant hnone hwaiting _ hempty =>
    refine .takes rfl hempty ?_ ?_ (sameWatch_of_eq rfl)
    · simp [underWay_of_none hnone, hwaiting]
    · rw [underWay_of_none hnone, underWay_of_active rfl, hwaiting]
      rfl
  | cancels hnone hwaiting | drains hnone hwaiting =>
    refine .takes rfl rfl ?_ ?_ (sameWatch_of_eq rfl)
    · simp [underWay_of_none hnone, hwaiting]
    · rw [underWay_of_none hnone, underWay_of_active rfl, hwaiting]
      rfl
  | cancelled hactive | closes hactive | spared hactive | closed hactive | unclosed hactive
  | opened hactive | built hactive =>
    refine .keeps rfl rfl rfl ?_ (sameWatch_of_eq rfl)
    rw [underWay_of_active hactive, underWay_of_active rfl]
  | unopened hactive | unbuilt hactive =>
    -- the slot was emptied when the call took it
    refine .ends rfl ?_ (underWay_of_active hactive) (isRebuilding_concluded _ _ _)
    show c.slot.isSome = false
    rw [hslot (by rw [hactive]; rfl)]
    rfl
  | installed hactive =>
    exact .ends rfl rfl (underWay_of_active hactive) (isRebuilding_concluded _ _ _)
  | @retired call _ _ hactive =>
    refine .retires rfl rfl ?_ (sameWatch_of_eq rfl)
    rw [underWay_of_active hactive, hretiring _ _ hactive]
    rfl
  | gone hw hphase => exact .keeps rfl rfl rfl rfl (sameWatch_set hw hphase (by simp) rfl)
  | passes hw hphase => exact .keeps rfl rfl rfl rfl (sameWatch_set hw hphase (by simp) rfl)
  | @rebuilds i _ w _ _ _ hw hphase hlive hadmits =>
    refine .rebuilds hw hphase hlive hadmits rfl
      ⟨c.inLine.map fun call => call.purpose.want, _, rfl, ?_⟩ ?_ (List.length_set ..)
    · simp [underWay, inLine, Purpose.want]
    · intro j
      unfold isRebuilding
      simp only [List.getElem?_set]
      by_cases hij : i = j
      · subst hij
        simp [(List.getElem?_eq_some_iff.1 hw).1]
      · simp [hij, Ne.symm hij]
  | reconnected => exact .keeps rfl rfl rfl rfl (sameWatch_map rfl fun _ => rfl)
  | channelClosed => exact .keeps rfl rfl rfl rfl (sameWatch_map rfl fun _ => rfl)
  | work => exact .keeps rfl rfl rfl rfl (sameWatch_of_eq rfl)

/-! ## In every history -/

/-- What holds in every history of the stage and the calls under way. -/
structure Staged (s : Scene) (c : Consumer) : Prop where
  sound : Sound c
  watched : Watched s c
  retiring : ∀ call result, c.active = some (call, .retiring result) → call.purpose = .stop
  starting : c.status = .starting → .start ∈ c.underWay
  stopped : c.status = .stopped → Stopped c
  rebuilding : ∀ i, c.underWay.count (.rebuild i) = if c.isRebuilding i then 1 else 0

theorem staged_ofSettings (s : Scene) (settings : ConsumerSettings) (registry : Registry)
    (observers : List String) : Staged s (ofSettings settings registry observers) where
  sound := sound_ofSettings settings registry observers
  watched := watched_ofSettings s settings registry observers
  retiring _ _ h := nomatch h
  starting h := nomatch h
  stopped h := nomatch h
  rebuilding _ := rfl

/-- Only a stop gets to the end of a stop. -/
theorem Stepped.retiring (h : Stepped s c l s' c')
    (hretiring : ∀ call result, c.active = some (call, .retiring result) → call.purpose = .stop)
    (result : Outcome) (hactive : c'.active = some (call, .retiring result)) :
    call.purpose = .stop := by
  have hnext {call' : Call} {result' : Outcome}
      (hnext : some (call', nextPhase call' result') = some (call, .retiring result)) :
      call.purpose = .stop := by
    obtain ⟨rfl, hphase⟩ := Prod.mk.inj (Option.some.inj hnext)
    by_contra hpurpose
    rw [nextPhase, if_neg hpurpose] at hphase
    cases hphase
  cases h with
  | start | stop | found | hired | gone | rebuilds | passes | reconnected | channelClosed | work =>
    exact hretiring call result hactive
  | vacant | spared | closed | unclosed => exact hnext hactive
  | declined | cancels | drains | cancelled | closes | opened | unopened | built | unbuilt
  | installed | retired => cases hactive

theorem Stepped.status_of_isStart (h : Stepped s c l s' c') (hl : l.isStart = true) :
    c'.status = .starting := by
  cases h with
  | start => rfl
  | _ => cases hl

theorem Staged.turned (h : Staged s c) (hstepped : Stepped s c l s' c') : Turned s c l c' :=
  turned_of_stepped h.sound.slot h.retiring hstepped

theorem stageAfter_eq_starting {p : Purpose} {result : Outcome} {status : ConsumerStatus}
    (h : p.stageAfter result status = .starting) : status = .starting ∧ p.want ≠ .start := by
  cases p with
  | start => cases result <;> cases status <;> cases h
  | stop | rebuild =>
    refine ⟨?_, by simp [Purpose.want]⟩
    cases result <;> cases status <;> first | rfl | cases h

theorem stageAfter_eq_stopped {p : Purpose} {result : Outcome} {status : ConsumerStatus}
    (h : p.stageAfter result status = .stopped) : status = .stopped := by
  cases p <;> cases result <;> cases status <;> first | rfl | cases h

/-- A consumer that is starting has a start under way. -/
theorem Turned.starting (h : Turned s c l c')
    (hstarting : c.status = .starting → .start ∈ c.underWay) (hstatus' : c'.status = .starting) :
    .start ∈ c'.underWay := by
  cases h with
  | keeps hstatus _ _ hunderWay | takes hstatus _ _ hunderWay =>
    rw [hunderWay]
    exact hstarting (hstatus ▸ hstatus')
  | starts _ _ hunderWay => simp [hunderWay]
  | stops _ hstatus | rebuilds _ _ _ _ hstatus | retires _ hstatus =>
    rw [hstatus'] at hstatus
    cases hstatus
  | declines hstopping hstatus =>
    rw [← hstatus, hstatus'] at hstopping
    cases hstopping
  | ends hstatus _ hunderWay =>
    obtain ⟨hwas, hwant⟩ := stageAfter_eq_starting (hstatus.symm.trans hstatus')
    have hstart := hstarting hwas
    rw [hunderWay, List.mem_cons] at hstart
    exact hstart.resolve_left (Ne.symm hwant)

/-- No step but the end of a stop leads to the stage of stopped consumers. -/
theorem Turned.stopped (h : Turned s c l c') (hl : l ≠ .retire) (hstatus' : c'.status = .stopped) :
    c.status = .stopped := by
  cases h with
  | keeps hstatus | takes hstatus | declines _ hstatus => exact hstatus.symm.trans hstatus'
  | starts _ hstatus | stops _ hstatus | rebuilds _ _ _ _ hstatus =>
    rw [hstatus'] at hstatus
    cases hstatus
  | ends hstatus => exact stageAfter_eq_stopped (hstatus.symm.trans hstatus')
  | retires hretire => exact absurd hretire hl

/-- The first of some calls was the only one for a watcher, or it was for another one. -/
theorem count_tail {want want' : Want} {calls rest : List Want} {b : Bool}
    (h : calls = want' :: rest) (hcount : calls.count want = if b then 1 else 0) :
    rest.count want = if decide (want' ≠ want) && b then 1 else 0 := by
  rw [h, List.count_cons] at hcount
  by_cases hwant : want' = want
  · subst hwant
    simp only [beq_self_eq_true, if_true] at hcount
    simp only [ne_eq, not_true_eq_false, decide_false, Bool.false_and, Bool.false_eq_true, if_false]
    split at hcount <;> omega
  · simpa [hwant] using hcount

/-- A watcher that rebuilds has one rebuild under way. -/
theorem Turned.rebuilding (h : Turned s c l c')
    (hrebuilding : ∀ i, c.underWay.count (.rebuild i) = if c.isRebuilding i then 1 else 0)
    (i : Nat) : c'.underWay.count (.rebuild i) = if c'.isRebuilding i then 1 else 0 := by
  have hwas := hrebuilding i
  cases h with
  | keeps _ _ _ hunderWay hwatch | takes _ _ _ hunderWay hwatch =>
    rw [hunderWay, hwatch.rebuilding, hwas]
  | starts _ _ hunderWay hwatch =>
    rw [hunderWay, hwatch.rebuilding, List.count_append, hwas]
    rfl
  | stops _ _ hunderWay hwatch =>
    obtain ⟨front, back, hfront, hback⟩ := hunderWay
    rw [hfront, List.count_append] at hwas
    rw [hback, hwatch.rebuilding, ← hwas]
    simp
  | @rebuilds j w hw hphase _ _ _ hunderWay hbegins _ =>
    obtain ⟨front, back, hfront, hback⟩ := hunderWay
    rw [hfront, List.count_append] at hwas
    rw [hback, hbegins, List.count_append, List.count_cons]
    by_cases hij : i = j
    · subst hij
      have hidle : c.isRebuilding i = false := by simp [isRebuilding, hw, hphase]
      simp only [hidle, Bool.false_eq_true, if_false] at hwas
      simp
      omega
    · simp [hij, Ne.symm hij, ← hwas]
  | declines _ _ _ hunderWay hover | ends _ _ hunderWay hover =>
    rw [hover]
    exact count_tail hunderWay hwas
  | retires _ _ hunderWay hwatch =>
    rw [hunderWay] at hwas
    rw [hwatch.rebuilding, ← hwas]
    simp

theorem Staged.took (h : Staged w.scene w.consumer) (hstep : w.step? l = some w') :
    Staged w'.scene w'.consumer := by
  have hstep' := Site.step?_eq_some.1 hstep
  have hstepped := stepped_of_step hstep'
  have hturned := h.turned hstepped
  refine ⟨h.sound.step hstep', h.watched.stepped hstepped, fun _ => hstepped.retiring h.retiring,
    hturned.starting h.starting, ?_, hturned.rebuilding h.rebuilding⟩
  intro hstatus
  by_cases hl : l = .retire
  · subst hl
    exact h.sound.stopped hstep'
  · -- the consumer was stopped before
    have hwas := h.stopped (hturned.stopped hl hstatus)
    refine (hwas.step (Bool.eq_false_iff.2 fun hstart => ?_) hstep').1
    rw [hstepped.status_of_isStart hstart] at hstatus
    cases hstatus

theorem Staged.happened (h : Staged w.scene w.consumer) (hw : Happened w e w') :
    Staged w'.scene w'.consumer := by
  have hsound := hw.sound h.sound
  have hwatched := h.watched.happened hw
  cases hw with
  | missed => exact h
  | took hstep => exact h.took hstep
  | elsewhere =>
    exact ⟨hsound, hwatched, h.retiring, h.starting, h.stopped, h.rebuilding⟩
  | told _ hjobs _ =>
    exact ⟨hsound, hwatched, h.retiring, h.starting,
      fun hstatus => (h.stopped hstatus).withProcessor hjobs, h.rebuilding⟩

theorem staged_after (h : Staged w.scene w.consumer) (es : List Event) :
    Staged (w.after es).scene (w.after es).consumer :=
  List.foldlRecOn (motive := fun w => Staged w.scene w.consumer) es Site.next h
    fun w hw e _ => hw.happened (happened_next w e)

end Consumer

end MessageBus
