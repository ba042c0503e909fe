import MessageBus.Proofs.Consumer.Stages

/-!
# Stage and slot agree

While nothing is under way a consumer that is running has a subscription, and one that is idle or
stopped has none. Two starts that overlap can break this, since each of them takes the stage of the
other for its own (`overlapping_starts_disagree`). Where no start begins while another one is under
way it holds, whatever else goes on meanwhile and whatever fails; and it holds again as soon as such
a history follows one in which starts did overlap. Main statement: `agreement_law`.
-/

set_option autoImplicit false

namespace MessageBus.Consumer

/-- Stage and slot say the same, but for stopped consumers. -/
structure Agrees (c : Consumer) : Prop where
  running : c.status = .running → c.slot.isSome = true
  idle : c.status = .idle → c.slot.isSome = false

/-- No start begins in a history while another one is under way. -/
def Site.startsApart (w : Site) : List Event → Bool
  | [] => true
  | e :: es => decide (e.isStart = true → .start ∉ w.consumer.underWay) && (w.next e).startsApart es

/-- Two starts overlap. The first one fails, so that the consumer is idle; the second one does not,
and the consumer stays idle with a subscription. -/
theorem overlapping_starts_disagree :
    let s := ((default : Scene).makeToken none).1
    let w := (⟨s, ofSettings (.ofMessageType "orderCreated") default []⟩ : Site).after
      ((([.start 0, .start 0, .watch, .watch, .enter true, .reply (.noChannel .internal),
        .enter true, .reply (.opened 1)] : List Label) ++
          List.replicate 5 (Label.reply .granted)).map .own)
    w.consumer.isQuiet = true ∧ w.consumer.status = .idle ∧ w.consumer.slot.isSome = true := by
  decide

variable {s s' : Scene} {c c' : Consumer} {l : Label} {w w' : Site} {e : Event}

/-! ## Starts that do not overlap -/

/-- How the calls are ordered that are under way, while starts do not overlap. -/
structure Ordered (c : Consumer) : Prop where
  one : c.underWay.count .start ≤ 1
  /-- A start that is not called off is the last one in line. -/
  starting : c.status = .starting → ∃ front, c.underWay = front ++ [.start]
  settled : c.status = .idle ∨ c.status = .running → c.underWay = []
  rebuilding : c.status = .resubscribing →
    c.underWay = [] ∨ ∃ i, c.underWay = [.rebuild i] ∧ i + 1 = c.watchers.length

/-- While a start is under way that is not called off, nothing comes after it. -/
theorem Ordered.rest_of_start (h : Ordered c) (hstarting : c.status = .starting)
    {rest : List Want} (hrest : c.underWay = .start :: rest) : rest = [] := by
  obtain ⟨front, hfront⟩ := h.starting hstarting
  cases front with
  | nil =>
    rw [hfront] at hrest
    exact (List.cons.inj hrest).2.symm
  | cons first front =>
    -- there would be two starts
    have hone := h.one
    rw [hfront] at hrest hone
    obtain ⟨rfl, -⟩ := List.cons.inj hrest
    simp at hone

/-- When a watcher begins a rebuild nothing else is under way. -/
theorem Ordered.settled_of_rebuild (h : Ordered c) (hs : Staged s c) {i : Nat} {x : Watcher}
    (hx : c.watchers[i]? = some x) (hphase : x.phase = .listening)
    (hlive : s.isCancelled x.token = false) (hadmits : c.status.admitsRebuild = true) :
    c.underWay = [] := by
  cases hstatus : c.status with
  | idle => exact h.settled (.inl hstatus)
  | running => exact h.settled (.inr hstatus)
  | starting | stopping | stopped =>
    rw [hstatus] at hadmits
    cases hadmits
  | resubscribing =>
    refine (h.rebuilding hstatus).resolve_right ?_
    -- the watcher that rebuilds would be the one that listens
    rintro ⟨j, hj, hlast⟩
    obtain rfl : i = j := Nat.succ.inj ((hs.watched.succ_eq_length hx hlive).trans hlast.symm)
    have hcount := hs.rebuilding i
    rw [hj] at hcount
    simp [isRebuilding, hx, hphase] at hcount

/-- Once a stop has begun nothing is said but that starts do not overlap. -/
theorem ordered_of_isStopping (hstopping : c.status.isStopping = true)
    (hone : c.underWay.count .start ≤ 1) : Ordered c := by
  have hne {status : ConsumerStatus} (h : status.isStopping = false) : c.status ≠ status := by
    rintro rfl
    rw [h] at hstopping
    cases hstopping
  refine ⟨hone, fun h => absurd h (hne rfl), fun h => ?_, fun h => absurd h (hne rfl)⟩
  rcases h with h | h
  · exact absurd h (hne rfl)
  · exact absurd h (hne rfl)

theorem ordered_of_nil (hnil : c.underWay = []) (hstarting : c.status ≠ .starting) : Ordered c :=
  ⟨by simp [hnil], fun h => absurd h hstarting, fun _ => hnil, fun _ => .inl hnil⟩

/-- The call that holds the lock comes to its end. -/
theorem Ordered.ends (h : Ordered c) {p : Purpose} {result : Outcome}
    (hstatus : c'.status = p.stageAfter result c.status)
    (hunderWay : c.underWay = p.want :: c'.underWay) : Ordered c' := by
  have hone : c'.underWay.count .start ≤ 1 := by
    have hone := h.one
    rw [hunderWay, List.count_cons] at hone
    omega
  cases hwas : c.status with
  | idle | running =>
    have hnil := h.settled (by simp [hwas])
    rw [hunderWay] at hnil
    cases hnil
  | stopping | stopped =>
    refine ordered_of_isStopping ?_ hone
    rw [hstatus, hwas, stageAfter_of_isStopping _ _ rfl]
    rfl
  | resubscribing =>
    -- the call is the one rebuild
    rcases h.rebuilding hwas with hnil | ⟨i, hi, -⟩
    · rw [hunderWay] at hnil
      cases hnil
    · rw [hunderWay] at hi
      refine ordered_of_nil (List.cons.inj hi).2 fun hstarting => ?_
      have hcontra := (stageAfter_eq_starting (hstatus.symm.trans hstarting)).1
      rw [hwas] at hcontra
      cases hcontra
  | starting =>
    by_cases hwant : p.want = .start
    · rw [hwant] at hunderWay
      refine ordered_of_nil (h.rest_of_start hwas hunderWay) fun hstarting => ?_
      exact (stageAfter_eq_starting (hstatus.symm.trans hstarting)).2 hwant
    · -- the start has still to come
      obtain ⟨front, hfront⟩ := h.starting hwas
      have hstarting : c'.status = .starting := by
        rw [hstatus, hwas]
        cases p with
        | start => exact absurd rfl hwant
        | stop | rebuild => cases result <;> rfl
      cases front with
      | nil =>
        rw [hunderWay] at hfront
        exact absurd (List.cons.inj hfront).1 hwant
      | cons first front =>
        rw [hunderWay] at hfront
        have hrest : c'.underWay = front ++ [.start] := (List.cons.inj hfront).2
        exact ⟨hone, fun _ => ⟨front, hrest⟩, by simp [hstarting], by simp [hstarting]⟩

theorem Ordered.turned (h : Ordered c) (hs : Staged s c) (ht : Turned s c l c')
    (hstart : l.isStart = true → .start ∉ c.underWay) : Ordered c' := by
  have hsame (hstatus : c'.status = c.status) (hunderWay : c'.underWay = c.underWay)
      (hwatch : SameWatch c c') : Ordered c' := by
    refine ⟨by rw [hunderWay]; exact h.one, ?_, ?_, ?_⟩
    · rw [hstatus, hunderWay]
      exact h.starting
    · rw [hstatus, hunderWay]
      exact h.settled
    · rw [hstatus, hunderWay]
      intro hresubscribing
      refine (h.rebuilding hresubscribing).imp_right ?_
      rintro ⟨i, hi, hlast⟩
      refine ⟨i, hi, ?_⟩
      rcases hwatch.length with hlength | hmem
      · rw [hlength]
        exact hlast
      · rw [hi] at hmem
        simp at hmem
  have hrest {want : Want} (hunderWay : c.underWay = want :: c'.underWay) :
      c'.underWay.count .start ≤ 1 := by
    have hone := h.one
    rw [hunderWay, List.count_cons] at hone
    omega
  cases ht with
  | keeps hstatus _ _ hunderWay hwatch => exact hsame hstatus hunderWay hwatch
  | takes hstatus _ _ hunderWay hwatch => exact hsame hstatus hunderWay hwatch
  | starts hl hstatus hunderWay =>
    have hnone : c.underWay.count .start = 0 := List.count_eq_zero.2 (hstart hl)
    refine ⟨?_, fun _ => ⟨_, hunderWay⟩, ?_, ?_⟩
    · simp [hunderWay, hnone]
    · simp [hstatus]
    · simp [hstatus]
  | stops _ hstatus hunderWay =>
    obtain ⟨front, back, hfront, hback⟩ := hunderWay
    have hone := h.one
    rw [hfront] at hone
    exact ordered_of_isStopping (by rw [hstatus]; rfl) (by simpa [hback] using hone)
  | @rebuilds i _ hw hphase hlive hadmits hstatus hunderWay _ hlength =>
    obtain ⟨front, back, hfront, hback⟩ := hunderWay
    -- nothing else is under way where a rebuild begins
    rw [h.settled_of_rebuild hs hw hphase hlive hadmits] at hfront
    obtain ⟨rfl, rfl⟩ := List.append_eq_nil_iff.1 hfront.symm
    refine ⟨by simp [hback], by simp [hstatus], by simp [hstatus], fun _ => .inr ⟨i, hback, ?_⟩⟩
    rw [hlength]
    exact hs.watched.succ_eq_length hw hlive
  | declines hdeclined hstatus _ hunderWay =>
    exact ordered_of_isStopping (by rw [hstatus]; exact hdeclined) (hrest hunderWay)
  | ends hstatus _ hunderWay => exact h.ends hstatus hunderWay
  | retires _ hstatus hunderWay =>
    exact ordered_of_isStopping (by rw [hstatus]; rfl) (hrest hunderWay)

/-! ## What agrees -/

theorem stageAfter_eq_running {p : Purpose} {result : Outcome} {status : ConsumerStatus}
    (h : p.stageAfter result status = .running) : status = .running ∨ result.isOk = true := by
  cases p <;> cases result <;> cases status <;> first | exact .inl rfl | exact .inr rfl | cases h

theorem stageAfter_eq_idle {p : Purpose} {result : Outcome} {status : ConsumerStatus}
    (h : p.stageAfter result status = .idle) : status = .idle ∨ result.isOk = false := by
  cases p <;> cases result <;> cases status <;> first | exact .inl rfl | exact .inr rfl | cases h

/-- Neither stage nor slot has changed, and nobody has called. -/
structure Unmoved (c c' : Consumer) : Prop where
  status : c'.status = c.status
  slot : c'.slot = c.slot
  calls : c'.calls = c.calls

theorem Agrees.of_unmoved (h : Agrees c) (hsame : Unmoved c c') : Agrees c' := by
  refine ⟨?_, ?_⟩
  · rw [hsame.status, hsame.slot]
    exact h.running
  · rw [hsame.status, hsame.slot]
    exact h.idle

theorem Unmoved.trans {c₁ c₂ c₃ : Consumer} (h : Unmoved c₁ c₂) (h' : Unmoved c₂ c₃) :
    Unmoved c₁ c₃ where
  status := h'.status.trans h.status
  slot := h'.slot.trans h.slot
  calls := h'.calls.trans h.calls

/-- A step moves nothing, or leads to agreement. -/
theorem Ordered.agrees (h : Ordered c) (ht : Turned s c l c') : Agrees c' ∨ Unmoved c c' := by
  -- whoever is idle or running has nothing under way
  have hbusy (hstatus : c'.status = .idle ∨ c'.status = .running → c.status = c'.status)
      (hsome : c.underWay ≠ []) : Agrees c' := by
    refine ⟨fun hrunning => ?_, fun hidle => ?_⟩
    · exact absurd (h.settled (.inr ((hstatus (.inr hrunning)).trans hrunning))) hsome
    · exact absurd (h.settled (.inl ((hstatus (.inl hidle)).trans hidle))) hsome
  have hother (hidle : c'.status ≠ .idle) (hrunning : c'.status ≠ .running) : Agrees c' :=
    ⟨fun h => absurd h hrunning, fun h => absurd h hidle⟩
  cases ht with
  | keeps hstatus hslot hcalls => exact .inr ⟨hstatus, hslot, hcalls⟩
  | takes hstatus _ hsome => exact .inl (hbusy (fun _ => hstatus.symm) hsome)
  | starts _ hstatus | stops _ hstatus | rebuilds _ _ _ _ hstatus | retires _ hstatus =>
    exact .inl (hother (by simp [hstatus]) (by simp [hstatus]))
  | declines _ hstatus _ hunderWay =>
    exact .inl (hbusy (fun _ => hstatus.symm) (by simp [hunderWay]))
  | ends hstatus hslot hunderWay =>
    have hsome : c.underWay ≠ [] := by simp [hunderWay]
    refine .inl ⟨fun hrunning => ?_, fun hidle => ?_⟩
    · rw [hslot]
      refine (stageAfter_eq_running (hstatus.symm.trans hrunning)).resolve_left fun hwas => ?_
      exact hsome (h.settled (.inr hwas))
    · rw [hslot]
      refine (stageAfter_eq_idle (hstatus.symm.trans hidle)).resolve_left fun hwas => ?_
      exact hsome (h.settled (.inl hwas))

theorem Ordered.happened (h : Ordered w.consumer) (hs : Staged w.scene w.consumer)
    (hw : Happened w e w') (hstart : e.isStart = true → .start ∉ w.consumer.underWay) :
    Ordered w'.consumer ∧ (Agrees w'.consumer ∨ Unmoved w.consumer w'.consumer) := by
  cases hw with
  | missed | elsewhere => exact ⟨h, .inr ⟨rfl, rfl, rfl⟩⟩
  | took _ hstepped =>
    have ht := hs.turned hstepped
    exact ⟨h.turned hs ht hstart, h.agrees ht⟩
  | told => exact ⟨⟨h.one, h.starting, h.settled, h.rebuilding⟩, .inr ⟨rfl, rfl, rfl⟩⟩

theorem Ordered.after (h : Ordered w.consumer) (hs : Staged w.scene w.consumer) {es : List Event}
    (hes : w.startsApart es = true) :
    Ordered (w.after es).consumer ∧
      (Agrees (w.after es).consumer ∨ Unmoved w.consumer (w.after es).consumer) := by
  induction es generalizing w with
  | nil => exact ⟨h, .inr ⟨rfl, rfl, rfl⟩⟩
  | cons e rest ih =>
    obtain ⟨hstart, hrest⟩ := Bool.and_eq_true_iff.1 hes
    have hw := happened_next w e
    obtain ⟨hnext, hagrees⟩ := h.happened hs hw (of_decide_eq_true hstart)
    obtain ⟨hlast, hlater⟩ := ih hnext (hs.happened hw) hrest
    refine ⟨hlast, ?_⟩
    rcases hlater with hlater | hsame
    · exact .inl hlater
    · exact hagrees.imp (·.of_unmoved hsame) (·.trans hsame)

/-! ## The law -/

/-- A consumer without a subscription: it has no channel in use, and no worker. -/
structure Bare (c : Consumer) : Prop where
  slot : c.slot = none
  channelsInUse : c.channelsInUse = []
  workers : ∀ k, c.crew.isDrained k = true

theorem Sound.bare (h : Sound c) (hquiet : c.isQuiet = true) (hslot : c.slot = none) : Bare c := by
  have hactive : c.active = none := (isQuiet_iff.1 hquiet).2.2
  refine ⟨hslot, by simp [channelsInUse, held, hslot, hactive], ?_⟩
  exact Crew.isDrained_of_views (h.gone (by simp [tended, hslot, hactive]))

/-- What stage and slot say of a consumer while nothing is under way. -/
structure AtRest (c : Consumer) : Prop where
  running : c.status = .running → ∃ sub, c.slot = some sub
  idle : c.status = .idle → Bare c

/-- What holds of stage and slot in the histories that begin at a site. -/
structure AgreementLaw (start : Site) : Prop where
  /-- Whatever overlaps, a consumer that is stopped has no subscription. -/
  stopped : ∀ es, (start.after es).consumer.isQuiet = true →
    (start.after es).consumer.status = .stopped → Bare (start.after es).consumer
  /-- Where no start begins while another one is under way, stage and slot agree. -/
  agrees : ∀ es, start.startsApart es = true → (start.after es).consumer.isQuiet = true →
    AtRest (start.after es).consumer
  /-- Whatever has happened before, they agree again once somebody has called. -/
  heals : ∀ before es, (start.after before).consumer.isQuiet = true →
    (start.after before).startsApart es = true →
    ((start.after before).after es).consumer.isQuiet = true →
    ((start.after before).after es).consumer.calls ≠ (start.after before).consumer.calls →
    AtRest ((start.after before).after es).consumer

theorem Agrees.atRest (h : Agrees c) (hsound : Sound c) (hquiet : c.isQuiet = true) : AtRest c where
  running hrunning := Option.isSome_iff_exists.1 (h.running hrunning)
  idle hidle := hsound.bare hquiet (by simpa using h.idle hidle)

/-- While nothing is under way the order is trivial: no start is missing. -/
theorem Staged.ordered (h : Staged s c) (hquiet : c.isQuiet = true) : Ordered c := by
  have hnil : c.underWay = [] := underWay_eq_nil.2 hquiet
  refine ordered_of_nil hnil fun hstarting => ?_
  have hstart := h.starting hstarting
  rw [hnil] at hstart
  cases hstart

/-- A consumer on which nothing is under way has a subscription if it is running, and none if it is
idle or stopped: for all starts, stops and rebuilds, in every order and whatever fails, as long as
no two starts overlap, and for stopped consumers even then. -/
theorem agreement_law (settings : ConsumerSettings) (registry : Registry) (observers : List String)
    (s : Scene) : AgreementLaw ⟨s, ofSettings settings registry observers⟩ := by
  have hstart := staged_ofSettings s settings registry observers
  have hinitial : Agrees (ofSettings settings registry observers) :=
    ⟨fun hrunning => (nomatch hrunning), fun _ => rfl⟩
  refine ⟨?_, ?_, ?_⟩
  · intro es hquiet hstopped
    have hstaged := staged_after (w := ⟨s, _⟩) hstart es
    exact hstaged.sound.bare hquiet (hstaged.stopped hstopped).slot
  · intro es hes hquiet
    have hsound := hstart.sound.after (w := ⟨s, _⟩) es
    have hordered : Ordered (ofSettings settings registry observers) := hstart.ordered rfl
    obtain ⟨-, hagrees | hsame⟩ := Ordered.after (w := ⟨s, _⟩) hordered hstart hes
    · exact hagrees.atRest hsound hquiet
    · exact (hinitial.of_unmoved hsame).atRest hsound hquiet
  · intro before es hrest hes hquiet hcalls
    have hstaged := staged_after (w := ⟨s, _⟩) hstart before
    obtain ⟨-, hagrees | hsame⟩ := (hstaged.ordered hrest).after hstaged hes
    · exact hagrees.atRest (hstaged.sound.after es) hquiet
    · exact absurd hsame.calls hcalls

/-- A stop overlaps a start, which finds that the stop has begun and does nothing. -/
example :
    let start : Site := ⟨default, ofSettings (.ofMessageType "orderCreated") default []⟩
    let es := ([.start 0, .stop, .watch, .enter true, .retire, .enter true] : List Label).map .own
    start.startsApart es = true ∧ (start.after es).consumer.isQuiet = true ∧
      (start.after es).consumer.status = .stopped := by decide

end MessageBus.Consumer
