import MessageBus.Proofs.Consumer.Dialogue
import MessageBus.Proofs.Consumer.Stages

/-!
# Reconnects are heeded

A consumer that hears of a reconnect asks for a new channel. A watcher may hear of it while a start
is under way, and leaves it to the start then; if that has its channel from before the reconnect,
nothing comes of it (`reconnect_overlooked`). There is no other way for a reconnect to be lost while
nobody stops the consumer: however many are announced and whatever fails, as long as the watcher has
not read all of them or some call is under way that has still to ask, somebody will
(`Pending.after`). Main statement: `reconnect_law`.
-/

set_option autoImplicit false

namespace MessageBus

/-- Whether a line asks for a channel. -/
def Line.asksChannel : Line → Bool
  | .asked .openChannel => true
  | _ => false

namespace CallPhase

/-- Whether a call has still to ask for a channel, if it is no stop. -/
def isReleasing : CallPhase → Bool
  | cancelling _ | draining _ _ | closing _ => true
  | _ => false

/-- Whether it has asked for a channel already. -/
def isSettingUp : CallPhase → Bool
  | opening | building _ _ _ => true
  | _ => false

end CallPhase

namespace Consumer

/-- A start holds the lock that has asked for its channel already. -/
def PastAsking (c : Consumer) : Prop :=
  ∃ id token phase, c.active = some (⟨id, .start token⟩, phase) ∧ phase.isSettingUp = true

/-- A watcher would leave to a start what it has not read of. -/
structure Overlooking (watcher : Nat) (c : Consumer) : Prop where
  unread : ∃ x, c.watchers[watcher]? = some x ∧ x.reconnects.isEmpty = false
  starting : c.status = .starting
  pastAsking : PastAsking c

/-- What becomes of the reconnects that a watcher has not read, in the events that follow. -/
inductive Heeded (w : Site) (watcher : Nat) (es : List Event) : Prop where
  /-- Somebody asks for a channel. -/
  | asked (h : ∃ x ∈ w.transcript es, x.asksChannel = true)
  /-- The watcher reads of one while a start is past asking, and nobody has asked since. -/
  | overlooked {before rest : List Event} {connected : Bool}
      (hes : es = before ++ .own (.hear watcher connected) :: rest)
      (hover : Overlooking watcher (w.after before).consumer)
      (hunasked : ∀ x ∈ w.transcript before, x.asksChannel = false)

/-- A start is past asking when a reconnect is announced, and the watcher reads of it before the
start fails. Nothing is under way then, nothing is left to read, and nobody has asked for a channel
since. -/
theorem reconnect_overlooked :
    let s := ((default : Scene).makeToken none).1
    let w := (⟨s, ofSettings (.ofMessageType "orderCreated") default []⟩ : Site).after
      (([.start 0, .watch, .enter true, .reply (.opened 1), .reconnected] : List Label).map .own)
    let es := ([.hear 0 true, .reply .refused] : List Label).map Event.own
    (w.after es).consumer.isQuiet = true ∧
      (w.after es).consumer.watchers.map (fun x => (x.phase, x.reconnects.isEmpty)) =
        [(.listening, true)] ∧
      (w.after es).consumer.watchers.any (fun x => (w.after es).scene.isCancelled x.token) =
        false ∧
      (w.after es).consumer.status = .idle ∧
      (w.transcript es).any Line.asksChannel = false := by
  decide

variable {s s' : Scene} {c c' : Consumer} {call : Call} {l : Label} {w w' : Site} {e : Event}
  {watcher : Nat}

/-! ## Nobody stops the consumer -/

/-- No stop is under way, and none was the last thing that happened. -/
structure Unstopped (c : Consumer) : Prop where
  status : c.status.isStopping = false
  underWay : .stop ∉ c.underWay

theorem stageAfter_isStopping {p : Purpose} {result : Outcome} {status : ConsumerStatus}
    (h : status.isStopping = false) : (p.stageAfter result status).isStopping = false := by
  cases p <;> cases result <;> cases status <;> first | rfl | cases h

theorem Unstopped.turned (h : Unstopped c) (ht : Turned s c l c') (hl : l ≠ .stop) :
    Unstopped c' := by
  cases ht with
  | keeps hstatus _ _ hunderWay | takes hstatus _ _ hunderWay =>
    exact ⟨by rw [hstatus]; exact h.status, by rw [hunderWay]; exact h.underWay⟩
  | starts _ hstatus hunderWay =>
    exact ⟨by rw [hstatus]; rfl, by simpa [hunderWay] using h.underWay⟩
  | stops hstop => exact absurd hstop hl
  | rebuilds _ _ _ _ hstatus hunderWay =>
    obtain ⟨front, back, hfront, hback⟩ := hunderWay
    have hnone := h.underWay
    rw [hfront] at hnone
    exact ⟨by rw [hstatus]; rfl, by simpa [hback] using hnone⟩
  | declines hstopping =>
    rw [h.status] at hstopping
    cases hstopping
  | ends hstatus _ hunderWay =>
    refine ⟨by rw [hstatus]; exact stageAfter_isStopping h.status, fun hmem => h.underWay ?_⟩
    rw [hunderWay]
    exact List.mem_cons_of_mem _ hmem
  | retires _ _ hunderWay => exact absurd (by simp [hunderWay]) h.underWay

theorem Unstopped.happened (h : Unstopped w.consumer) (hs : Staged w.scene w.consumer)
    (hw : Happened w e w') (he : e.isStop = false) : Unstopped w'.consumer := by
  cases hw with
  | missed | elsewhere => exact h
  | took _ hstepped =>
    refine h.turned (hs.turned hstepped) ?_
    rintro rfl
    cases he
  | told => exact ⟨h.status, h.underWay⟩

/-- A call that is under way is no stop. -/
theorem Unstopped.purpose_ne (h : Unstopped c) (hcall : call ∈ c.inLine) :
    call.purpose ≠ .stop := by
  intro hstop
  refine h.underWay (List.mem_append_left _ (List.mem_map.2 ⟨call, hcall, ?_⟩))
  rw [hstop]
  rfl

/-! ## What is still to come -/

/-- Somebody will ask for a channel: the watcher has something to read, or a call is under way that
has still to ask. -/
inductive Pending (watcher : Nat) (c : Consumer) : Prop where
  | unread {x : Watcher} (hx : c.watchers[watcher]? = some x) (hread : x.reconnects.isEmpty = false)
  | entering (h : c.entering ≠ [])
  | waiting (h : c.waiting ≠ [])
  | releasing {call : Call} {phase : CallPhase} (hactive : c.active = some (call, phase))
      (hphase : phase.isReleasing = true)

/-- What a watcher has not read is still there. -/
def KeepsUnread (watcher : Nat) (c c' : Consumer) : Prop :=
  ∀ x, c.watchers[watcher]? = some x → x.reconnects.isEmpty = false →
    ∃ x', c'.watchers[watcher]? = some x' ∧ x'.reconnects.isEmpty = false

theorem Pending.of_keeps (h : Pending watcher c) (hunread : KeepsUnread watcher c c')
    (hentering : c'.entering = c.entering) (hwaiting : c'.waiting = c.waiting)
    (hactive : ∀ call phase, c.active = some (call, phase) → phase.isReleasing = true →
      c'.active = c.active) : Pending watcher c' := by
  cases h with
  | unread hx hread =>
    obtain ⟨x', hx', hread'⟩ := hunread _ hx hread
    exact .unread hx' hread'
  | entering h => exact .entering (hentering ▸ h)
  | waiting h => exact .waiting (hwaiting ▸ h)
  | releasing hwas hphase => exact .releasing ((hactive _ _ hwas hphase).trans hwas) hphase

theorem keepsUnread_of_eq (h : c'.watchers = c.watchers) : KeepsUnread watcher c c' := by
  intro x hx hread
  exact ⟨x, h ▸ hx, hread⟩

theorem keepsUnread_map {f : Watcher → Watcher} (h : c'.watchers = c.watchers.map f)
    (hf : ∀ x, x.reconnects.isEmpty = false → (f x).reconnects.isEmpty = false) :
    KeepsUnread watcher c c' := by
  intro x hx hread
  refine ⟨f x, ?_, hf x hread⟩
  rw [h, List.getElem?_map, hx]
  rfl

/-- Something becomes of a watcher. -/
theorem keepsUnread_set {i : Nat} {x x' : Watcher} (hx : c.watchers[i]? = some x)
    (h : c'.watchers = c.watchers.set i x') (hsame : i = watcher → x'.reconnects = x.reconnects) :
    KeepsUnread watcher c c' := by
  intro y hy hread
  rw [h, List.getElem?_set]
  by_cases hi : i = watcher
  · subst hi
    obtain rfl := Option.some.inj (hx.symm.trans hy)
    refine ⟨x', ?_, hsame rfl ▸ hread⟩
    rw [if_pos rfl, if_pos (List.getElem?_eq_some_iff.1 hx).1]
  · exact ⟨y, by rw [if_neg hi, hy], hread⟩

theorem keepsUnread_concluded (watcher : Nat) (c : Consumer) (call : Call) (result : Outcome) :
    KeepsUnread watcher c (c.concluded call result) := by
  intro x hx hread
  unfold concluded
  cases call.purpose with
  | start | stop => exact ⟨x, hx, hread⟩
  | rebuild i =>
    simp only [Purpose.release, List.getElem?_modify, hx]
    split
    · exact ⟨_, rfl, hread⟩
    · exact ⟨_, rfl, hread⟩

/-- Once nothing is left of an old subscription, a call that is no stop asks for a channel. -/
theorem exists_asksChannel (c : Consumer) {result : Outcome} (hpurpose : call.purpose ≠ .stop) :
    ∃ x ∈ ({ c with active := some (call, nextPhase call result) } : Consumer).asks,
      x.asksChannel = true := by
  rw [asks_of_active rfl, nextPhase, if_neg hpurpose]
  exact ⟨_, List.mem_singleton_self _, rfl⟩

/-- A consumer that is starting has a call under way that has still to ask, or a start that is past
asking. -/
theorem pending_of_starting (hs : Staged s c) (hstarting : c.status = .starting)
    (hentering : c'.entering = c.entering) (hwaiting : c'.waiting = c.waiting)
    (hactive' : c'.active = c.active) : Pending watcher c' ∨ PastAsking c := by
  rcases List.mem_append.1 (hs.starting hstarting) with hline | hstarts
  · obtain ⟨call, hcall, hwant⟩ := List.mem_map.1 hline
    cases hactive : c.active with
    | none =>
      rw [inLine_of_none hactive, ← hwaiting] at hcall
      exact .inl (.waiting (List.ne_nil_of_mem hcall))
    | some holder =>
      obtain ⟨first, phase⟩ := holder
      rw [inLine_of_active hactive, List.mem_cons, ← hwaiting] at hcall
      rcases hcall with rfl | hcall
      · -- the start holds the lock
        obtain ⟨id, purpose⟩ := call
        cases purpose with
        | stop | rebuild => cases hwant
        | start token =>
          cases phase with
          | cancelling | draining | closing =>
            exact .inl (.releasing (hactive'.trans hactive) rfl)
          | opening | building => exact .inr ⟨id, token, _, hactive, rfl⟩
          | retiring result => cases hs.retiring _ _ hactive
      · exact .inl (.waiting (List.ne_nil_of_mem hcall))
  · refine .inl (.entering fun hnil => ?_)
    rw [← hentering, hnil] at hstarts
    cases hstarts

/-- While nobody stops the consumer, what is still to come stays so, or somebody asks for a channel
now, or the watcher leaves what it reads of to a start that is past asking. -/
theorem Pending.stepped (h : Pending watcher c) (hs : Staged s c) (hu : Unstopped c)
    (hstepped : Stepped s c l s' c') :
    Pending watcher c' ∨ (∃ x ∈ l.lines c', x.asksChannel = true) ∨
      ((∃ connected, l = .hear watcher connected) ∧ Overlooking watcher c) := by
  have hpurpose {call : Call} {phase : CallPhase} (hactive : c.active = some (call, phase)) :
      call.purpose ≠ .stop := hu.purpose_ne (by simp [inLine_of_active hactive])
  cases hstepped with
  | start => exact .inl (.entering (by simp))
  | stop | found | hired | rebuilds => exact .inl (.waiting (by simp))
  | declined _ _ _ hstopping =>
    rw [hu.status] at hstopping
    cases hstopping
  | vacant hnone hwaiting =>
    have hcall := hu.purpose_ne (by rw [inLine_of_none hnone, hwaiting]; exact List.mem_cons_self)
    exact .inr (.inl (exists_asksChannel _ hcall))
  | cancels | drains | cancelled | closes => exact .inl (.releasing rfl rfl)
  | spared hactive | closed hactive | unclosed hactive =>
    obtain ⟨x, hx, hasks⟩ := exists_asksChannel c (hpurpose hactive)
    exact .inr (.inl ⟨x, List.mem_cons_of_mem _ hx, hasks⟩)
  | opened hactive | built hactive =>
    refine .inl (h.of_keeps (keepsUnread_of_eq rfl) rfl rfl fun call phase hwas hphase => ?_)
    obtain ⟨-, rfl⟩ := holder_eq hwas hactive
    cases hphase
  | unopened hactive | unbuilt hactive =>
    have hkeeps := keepsUnread_concluded watcher c
    refine .inl (h.of_keeps (hkeeps _ _) rfl rfl fun call phase hwas hphase => ?_)
    obtain ⟨-, rfl⟩ := holder_eq hwas hactive
    cases hphase
  | @installed call channel tag _ pool hactive =>
    have hkeeps := keepsUnread_concluded watcher (c.filled pool channel tag) call (.ok ())
    refine .inl (h.of_keeps hkeeps rfl rfl fun call phase hwas hphase => ?_)
    obtain ⟨-, rfl⟩ := holder_eq hwas hactive
    cases hphase
  | retired hactive => exact absurd (hs.retiring _ _ hactive) (hpurpose hactive)
  | gone hx =>
    exact .inl (h.of_keeps (keepsUnread_set hx rfl fun _ => rfl) rfl rfl fun _ _ _ _ => rfl)
  | reconnected =>
    exact .inl (h.of_keeps (keepsUnread_map rfl fun x _ => x.reconnects.isEmpty_push) rfl rfl
      fun _ _ _ _ => rfl)
  | channelClosed =>
    exact .inl (h.of_keeps (keepsUnread_map rfl fun _ hread => hread) rfl rfl fun _ _ _ _ => rfl)
  | work => exact .inl (h.of_keeps (keepsUnread_of_eq rfl) rfl rfl fun _ _ _ _ => rfl)
  | @passes i connected x reconnects closures s' hx hphase hpassed =>
    let after : Consumer :=
      { c with watchers := c.watchers.set i { token := x.token, reconnects, closures } }
    have hkeeps (hsame : i = watcher → reconnects = x.reconnects) : Pending watcher after :=
      h.of_keeps (keepsUnread_set hx rfl hsame) rfl rfl fun _ _ _ _ => rfl
    rcases hpassed with hrefused | ⟨-, hsame⟩
    · by_cases hi : i = watcher
      · subst hi
        cases h with
        | entering h => exact .inl (.entering h)
        | waiting h => exact .inl (.waiting h)
        | releasing hactive hphase => exact .inl (.releasing hactive hphase)
        | @unread y hy hread =>
          -- a consumer that nobody stops refuses rebuilds only while it starts
          have hstarting : c.status = .starting := by
            have hstatus := hu.status
            cases hc : c.status <;>
              simp_all [ConsumerStatus.isStopping, ConsumerStatus.admitsRebuild]
          have hor : Pending i after ∨ PastAsking c := pending_of_starting hs hstarting rfl rfl rfl
          rcases hor with hpending | hpast
          · exact .inl hpending
          · exact .inr (.inr ⟨⟨connected, rfl⟩, ⟨y, hy, hread⟩, hstarting, hpast⟩)
      · exact .inl (hkeeps fun heq => absurd heq hi)
    · exact .inl (hkeeps fun _ => hsame)

theorem Pending.happened (h : Pending watcher w.consumer) (hs : Staged w.scene w.consumer)
    (hu : Unstopped w.consumer) (hw : Happened w e w') :
    Pending watcher w'.consumer ∨ (∃ x ∈ w.lines e, x.asksChannel = true) ∨
      ((∃ connected, e = .own (.hear watcher connected)) ∧ Overlooking watcher w.consumer) := by
  cases hw with
  | missed | elsewhere => exact .inl h
  | told => exact .inl (h.of_keeps (keepsUnread_of_eq rfl) rfl rfl fun _ _ _ _ => rfl)
  | took hstep hstepped =>
    rw [lines_of_step? hstep]
    refine (h.stepped hs hu hstepped).imp_right (Or.imp_right (And.imp_left ?_))
    rintro ⟨connected, rfl⟩
    exact ⟨connected, rfl⟩

/-- What is still to come comes, or is still to come, unless it is overlooked. -/
theorem Pending.after (h : Pending watcher w.consumer) (hs : Staged w.scene w.consumer)
    (hu : Unstopped w.consumer) {es : List Event} (hes : ∀ e ∈ es, e.isStop = false) :
    Pending watcher (w.after es).consumer ∨ Heeded w watcher es := by
  induction es generalizing w with
  | nil => exact .inl h
  | cons e rest ih =>
    have hw := happened_next w e
    by_cases hasks : ∃ x ∈ w.lines e, x.asksChannel = true
    · obtain ⟨x, hx, hx'⟩ := hasks
      exact .inr (.asked ⟨x, List.mem_append_left _ hx, hx'⟩)
    · have hnone : ∀ x ∈ w.lines e, x.asksChannel = false := by simpa using hasks
      rcases h.happened hs hu hw with hnext | hasks' | ⟨⟨connected, rfl⟩, hover⟩
      · have hu' := hu.happened hs hw (hes e List.mem_cons_self)
        have hrest : ∀ e' ∈ rest, e'.isStop = false := fun e' he' =>
          hes e' (List.mem_cons_of_mem e he')
        refine (ih hnext (hs.happened hw) hu' hrest).imp_right fun hheeded => ?_
        cases hheeded with
        | asked hlater =>
          obtain ⟨x, hx, hx'⟩ := hlater
          exact .asked ⟨x, List.mem_append_right _ hx, hx'⟩
        | @overlooked before later connected hlater hover hunasked =>
          have hes' : e :: rest = (e :: before) ++ .own (.hear watcher connected) :: later :=
            congrArg (e :: ·) hlater
          refine .overlooked hes' hover fun x hx => ?_
          exact (List.mem_append.1 hx).elim (hnone x) (hunasked x)
      · exact absurd hasks' hasks
      · have hes' : .own (.hear watcher connected) :: rest =
            [] ++ .own (.hear watcher connected) :: rest := rfl
        exact .inr (.overlooked hes' hover fun x hx => nomatch hx)

theorem unstopped_after (hs : Staged w.scene w.consumer) (hu : Unstopped w.consumer)
    {es : List Event} (hes : ∀ e ∈ es, e.isStop = false) : Unstopped (w.after es).consumer :=
  (List.foldlRecOn (motive := fun w => Staged w.scene w.consumer ∧ Unstopped w.consumer) es
    Site.next ⟨hs, hu⟩ fun w hw e he => ⟨hw.1.happened (happened_next w e),
      hw.2.happened hw.1 (happened_next w e) (hes e he)⟩).2

/-- A reconnect is announced. -/
theorem pending_of_reconnected (h : watcher < w.consumer.watchers.length) :
    Pending watcher (w.next (.own .reconnected)).consumer := by
  have hmap : (w.next (.own .reconnected)).consumer.watchers =
      w.consumer.watchers.map fun x => { x with reconnects := x.reconnects.push } := rfl
  have hx : (w.next (.own .reconnected)).consumer.watchers[watcher]? = some
      { w.consumer.watchers[watcher] with
        reconnects := w.consumer.watchers[watcher].reconnects.push } := by
    rw [hmap, List.getElem?_map, List.getElem?_eq_getElem h]
    rfl
  exact .unread hx (Backlog.isEmpty_push _)

/-! ## The law -/

/-- Nothing is under way, and a watcher has no reconnect left to read. -/
structure CaughtUp (watcher : Nat) (c : Consumer) : Prop where
  quiet : c.isQuiet = true
  read : (c.watchers[watcher]?).all (·.reconnects.isEmpty) = true

/-- Nothing is still to come then. -/
theorem CaughtUp.not_pending (h : CaughtUp watcher c) : ¬ Pending watcher c := by
  obtain ⟨hentering, hwaiting, hactive⟩ := isQuiet_iff.1 h.quiet
  intro hpending
  cases hpending with
  | unread hx hunread =>
    have hread := h.read
    rw [hx, Option.all_some, hunread] at hread
    cases hread
  | entering hsome => exact hsome hentering
  | waiting hsome => exact hsome hwaiting
  | releasing hsome =>
    rw [hactive] at hsome
    cases hsome

/-! ## Reading -/

/-- A watcher that begins a rebuild, or does not, keeps what it has left to read. -/
theorem getElem?_beginRebuild {x : Watcher} (h : watcher < c.watchers.length) :
    ∃ x', (c.beginRebuild s watcher x).2.watchers[watcher]? = some x' ∧
      x'.reconnects = x.reconnects := by
  unfold beginRebuild
  split
  · exact ⟨_, List.getElem?_set_self h, rfl⟩
  · exact ⟨_, List.getElem?_set_self h, rfl⟩

/-- A watcher that listens can read on, each time one thing less, until it is to go. -/
theorem exists_step_hear {x : Watcher} (hx : w.consumer.watchers[watcher]? = some x)
    (hphase : x.phase = .listening) (hread : x.reconnects.isEmpty = false) (connected : Bool) :
    ∃ w' x', w.step? (.hear watcher connected) = some w' ∧
      w'.consumer.watchers[watcher]? = some x' ∧
      (x'.phase = .gone ∨ x.reconnects.reads = x'.reconnects.reads + 1) := by
  have hlt := (List.getElem?_eq_some_iff.1 hx).1
  obtain ⟨signal, left, htake, hreads⟩ := Backlog.exists_take? hread
  cases hcancelled : w.scene.isCancelled x.token with
  | true =>
    have hstep : w.step? (.hear watcher connected) = some
        ⟨w.scene.log (w.consumer.report .debug "resubscribe watcher stopped"),
          { w.consumer with
            watchers := w.consumer.watchers.set watcher { x with phase := .gone } }⟩ := by
      simp [Site.step?, Consumer.step, hear, hx, hphase, hcancelled]
    exact ⟨_, _, hstep, List.getElem?_set_self hlt, .inl rfl⟩
  | false =>
    have hstep : w.step? (.hear watcher connected) = some
        ⟨(w.consumer.hearReconnect w.scene watcher { x with reconnects := left } signal).1,
          (w.consumer.hearReconnect w.scene watcher { x with reconnects := left } signal).2⟩ := by
      simp [Site.step?, Consumer.step, hear, hx, hphase, hcancelled, htake]
    obtain ⟨x', hx', hleft⟩ := getElem?_beginRebuild hlt
    exact ⟨_, x', hstep, hx', .inr (by rw [hleft, hreads])⟩

/-- What holds of the reconnects that are announced to a consumer in the histories that begin at a
site. -/
structure ReconnectLaw (start : Site) : Prop where
  /-- A watcher that listens can read on, each time one thing less, until it is to go. -/
  reads : ∀ es watcher x connected, (start.after es).consumer.watchers[watcher]? = some x →
    x.phase = .listening → x.reconnects.isEmpty = false → ∃ w' x',
      (start.after es).step? (.hear watcher connected) = some w' ∧
      w'.consumer.watchers[watcher]? = some x' ∧
      (x'.phase = .gone ∨ x.reconnects.reads = x'.reconnects.reads + 1)
  /-- What is announced to a watcher is heeded once the watcher has read everything and nothing is
  under way. -/
  heeded : ∀ before es watcher, (∀ e ∈ before ++ es, e.isStop = false) →
    watcher < (start.after before).consumer.watchers.length →
    CaughtUp watcher (((start.after before).next (.own .reconnected)).after es).consumer →
    Heeded ((start.after before).next (.own .reconnected)) watcher es

/-- Every reconnect is heeded that is announced to a watcher while nobody stops the consumer: once
the watcher has read everything and nothing is under way, somebody has asked for a channel since,
or the watcher has left the reconnect to a start that was past asking. -/
theorem reconnect_law (settings : ConsumerSettings) (registry : Registry)
    (observers : List String) (s : Scene) :
    ReconnectLaw ⟨s, ofSettings settings registry observers⟩ := by
  refine ⟨fun es watcher x connected hx hphase hread => exists_step_hear hx hphase hread connected,
    ?_⟩
  intro before es watcher hstop hwatcher hcaughtUp
  have hbefore : ∀ e ∈ before, e.isStop = false := fun e he => hstop e (List.mem_append_left _ he)
  have hafter : ∀ e ∈ es, e.isStop = false := fun e he => hstop e (List.mem_append_right _ he)
  have hstart := staged_ofSettings s settings registry observers
  have hs := staged_after (w := ⟨s, _⟩) hstart before
  have hinitial : Unstopped (ofSettings settings registry observers) :=
    ⟨rfl, List.not_mem_nil⟩
  have hu := unstopped_after (w := ⟨s, _⟩) hstart hinitial hbefore
  have hnext := happened_next ((⟨s, ofSettings settings registry observers⟩ : Site).after before)
    (.own .reconnected)
  have hheeded := (pending_of_reconnected hwatcher).after (hs.happened hnext)
    (hu.happened hs hnext rfl) hafter
  exact hheeded.resolve_left hcaughtUp.not_pending

/-- The law on a run: a watcher that listens reads of the reconnect and begins a rebuild, which asks
for a channel. -/
theorem reconnect_law_rebuild :
    let s := ((default : Scene).makeToken none).1
    let w := (⟨s, ofSettings (.ofMessageType "orderCreated") default []⟩ : Site).after
      (([.start 0, .watch, .enter true, .reply (.noChannel .internal)] : List Label).map .own)
    let announced := w.next (.own .reconnected)
    let es : List Event :=
      ([.hear 0 true, .enter true, .reply (.noChannel .internal)] : List Label).map .own
    CaughtUp 0 (announced.after es).consumer ∧ Heeded announced 0 es :=
  ⟨⟨by decide, by decide⟩, (reconnect_law (.ofMessageType "orderCreated") default []
    ((default : Scene).makeToken none).1).heeded
    (([.start 0, .watch, .enter true, .reply (.noChannel .internal)] : List Label).map .own)
    (([.hear 0 true, .enter true, .reply (.noChannel .internal)] : List Label).map .own) 0
    (by simp [Event.isStop]) (by decide) ⟨by decide, by decide⟩⟩

end Consumer

end MessageBus
