import MessageBus.Proofs.Consumer.Handling
import MessageBus.Proofs.Consumer.Setup
import MessageBus.Proofs.Consumer.Watch

/-!
# Orderly shutdown

A call that finds a subscription asks the broker to cancel it, waits until its workers are gone and
all their jobs are over, and only then asks for its channel to be closed, if that is still open.
With the connection down it asks for nothing, and waits for the workers all the same. A channel is
asked to be closed at most as often as it was opened. A stop ends with no subscription, no workers
and no watcher, and stops that come after it ask for nothing. Main statement: `shutdown_law`.
-/

set_option autoImplicit false

namespace MessageBus

namespace Line

/-- Whether a line asks for a channel to be closed. -/
def closes (channel : Amqp.ChannelId) : Line → Bool
  | asked (.on c (.closeChannel _ _)) => c == channel
  | _ => false

/-- Whether a line says that a channel is open. -/
def opens (channel : Amqp.ChannelId) : Line → Bool
  | answered (.opened c) => c == channel
  | _ => false

/-- Whether a line asks for the end of a subscription or a channel. -/
def isEnding : Line → Bool
  | asked (.on _ (.cancel _)) | asked (.on _ (.closeChannel _ _)) => true
  | _ => false

end Line

namespace CallPhase

/-- The channel that a call works on, if there is one. -/
def channels : CallPhase → List Amqp.ChannelId
  | cancelling old | draining old _ | closing old => [old.channel]
  | building _ channel _ => [channel]
  | opening | retiring _ => []

/-- The channel that it has not asked to close. -/
def closable : CallPhase → List Amqp.ChannelId
  | closing _ => []
  | phase => phase.channels

end CallPhase

/-! ## Releases and setups -/

theorem isEnding_granted {channel : Amqp.ChannelId} {s : ConsumerSettings} {tag : String}
    {methods : List Amqp.Method} (hmethods : ∀ method ∈ methods, method ∈ s.setupMethods tag)
    {x : Line} (hx : x ∈ granted channel methods) : x.isEnding = false := by
  obtain ⟨method, hmethod, hx⟩ := List.mem_flatMap.1 hx
  have hmem := hmethods method hmethod
  simp only [ConsumerSettings.setupMethods, List.mem_cons, List.not_mem_nil, or_false] at hmem hx
  rcases hx with rfl | rfl
  · rcases hmem with rfl | rfl | rfl | rfl | rfl <;> rfl
  · rfl

/-- A setup asks for no end. -/
theorem SetUp.isEnding {s : ConsumerSettings} {setup : List Line}
    {result : Except BusError (Amqp.ChannelId × String)} (h : SetUp s setup result) :
    ∀ x ∈ setup, x.isEnding = false := by
  have hopened (channel : Amqp.ChannelId) : ∀ x ∈ openedLines channel, x.isEnding = false := by
    simp [openedLines, Line.isEnding]
  intro x hx
  cases h with
  | unopened =>
    simp only [List.mem_cons, List.not_mem_nil, or_false] at hx
    rcases hx with rfl | rfl <;> rfl
  | @refused channel tag n method error hmethod _ =>
    have hmem : ∀ m ∈ [method], m ∈ s.setupMethods tag := by
      simpa using List.mem_of_getElem? hmethod
    have hlast : ∀ x ∈ granted channel [method], x.isEnding = false := fun _ =>
      isEnding_granted hmem
    rcases List.mem_append.1 hx with hx | hx
    · rcases List.mem_append.1 hx with hx | hx
      · exact hopened channel x hx
      · exact isEnding_granted (fun _ => List.mem_of_mem_take) hx
    · simp only [List.mem_cons, List.not_mem_nil, or_false] at hx
      rcases hx with rfl | rfl
      · exact hlast _ (by simp [granted])
      · rfl
  | @done channel tag =>
    rcases List.mem_append.1 hx with hx | hx
    · exact hopened channel x hx
    · exact isEnding_granted (fun _ hmethod => hmethod) hx

/-- A release fails only because the broker refused to close the channel. -/
theorem Released.refused {found : Option Subscription} {connected : Bool} {lines : List Line}
    {error : BusError} (h : Released found connected lines (.error error)) :
    ∃ old before, found = some old ∧ lines = before ++ [old.closeLine, .answered .refused] := by
  cases h with
  | @unclosed old r hr => exact ⟨old, [old.cancelLine, .answered r, .drained true], rfl, rfl⟩

namespace Consumer

/-! ## Channels are closed once -/

/-- The channels that may still be asked to be closed. -/
def closable (c : Consumer) : List Amqp.ChannelId :=
  c.slot.toList.map Subscription.channel ++
    match c.active with
    | some (_, phase) => phase.closable
    | none => []

variable {s s' : Scene} {c c' : Consumer} {call : Call} {l : Label} {w w' : Site} {e : Event}
  {a : Account}

theorem opens_asks (phase : CallPhase) (s : ConsumerSettings) (channel : Amqp.ChannelId) :
    (phase.asks s).countP (Line.opens channel) = 0 := by
  cases phase <;> simp [CallPhase.asks, Line.opens, Subscription.cancelLine, Subscription.closeLine]

/-- A call has asked for its channel to be closed, or it may still do so. -/
theorem closes_asks (phase : CallPhase) (s : ConsumerSettings) (channel : Amqp.ChannelId) :
    (phase.asks s).countP (Line.closes channel) + phase.closable.count channel =
      phase.channels.count channel := by
  cases phase with
  | building step channel tag =>
    cases step <;>
      simp [CallPhase.asks, Line.closes, SetupStep.method, CallPhase.closable, CallPhase.channels]
  | cancelling | draining | closing | opening | retiring =>
    simp [CallPhase.asks, Line.closes, Subscription.cancelLine, Subscription.closeLine,
      CallPhase.closable, CallPhase.channels, List.count_singleton, List.countP_singleton]

theorem closable_of_active {phase : CallPhase} (h : c.active = some (call, phase)) :
    c.closable = c.slot.toList.map Subscription.channel ++ phase.closable := by
  unfold closable
  rw [h]

theorem closable_of_none (h : c.active = none) :
    c.closable = c.slot.toList.map Subscription.channel := by
  unfold closable
  rw [h, List.append_nil]

theorem asks_of_none (h : c.active = none) : c.asks = [] := by
  unfold asks request?
  rw [h]
  rfl

theorem channels_nextPhase (call : Call) (result : Outcome) :
    (nextPhase call result).channels = [] := by
  unfold nextPhase
  split <;> rfl

/-- A call goes on to another phase: the channel it works on then may be closed already before, or
it has just been opened. -/
theorem closes_of_active {call' : Call} {phase phase' : CallPhase} {line : Line}
    {channel : Amqp.ChannelId} (hactive : c.active = some (call, phase))
    (hactive' : c'.active = some (call', phase')) (hslot : c'.slot = c.slot)
    (hline : line.closes channel = false)
    (hchannels : phase'.channels.count channel ≤
      [line].countP (Line.opens channel) + phase.closable.count channel) :
    (line :: c'.asks).countP (Line.closes channel) + c'.closable.count channel ≤
      (line :: c'.asks).countP (Line.opens channel) + c.closable.count channel := by
  have hasks := closes_asks phase' c'.settings channel
  have hopens := opens_asks phase' c'.settings channel
  rw [asks_of_active hactive', closable_of_active hactive, closable_of_active hactive', hslot]
  rw [List.countP_singleton] at hchannels
  simp only [List.countP_cons, List.count_append, hline, hopens, Bool.false_eq_true, if_false]
  omega

/-- A call is over: the channel in the slot may be closed already before. -/
theorem closes_of_none {phase : CallPhase} {line : Line} {channel : Amqp.ChannelId}
    (hactive : c.active = some (call, phase)) (hactive' : c'.active = none)
    (hline : line.closes channel = false)
    (hslot : (c'.slot.toList.map Subscription.channel).count channel ≤
      (c.slot.toList.map Subscription.channel).count channel + phase.closable.count channel) :
    (line :: c'.asks).countP (Line.closes channel) + c'.closable.count channel ≤
      (line :: c'.asks).countP (Line.opens channel) + c.closable.count channel := by
  rw [asks_of_none hactive', closable_of_active hactive, closable_of_none hactive']
  simp only [List.countP_singleton, List.count_append, hline, Bool.false_eq_true, if_false]
  omega

/-- A step asks for a channel to be closed only if it is among those that may be, and takes it off
them. -/
theorem closes_stepped (h : Stepped s c l s' c') (channel : Amqp.ChannelId) :
    (l.lines c').countP (Line.closes channel) + c'.closable.count channel ≤
      (l.lines c').countP (Line.opens channel) + c.closable.count channel := by
  cases h with
  | start | stop | found | hired | gone | rebuilds | passes | reconnected | channelClosed | work =>
    exact Nat.le_refl _
  | declined hactive =>
    rw [closable_of_none hactive, closable_of_none rfl]
    simp only [Label.lines]
    rw [asks_of_none rfl]
    exact Nat.le_refl _
  | @vacant call _ _ _ hactive hwaiting hadmitted hslot =>
    have hasks := closes_asks (nextPhase call (.ok ())) c.settings channel
    rw [channels_nextPhase] at hasks
    rw [closable_of_none hactive, closable_of_active rfl, hslot]
    simp only [Label.lines]
    rw [asks_of_active rfl]
    show (CallPhase.asks c.settings _).countP _ + (nextPhase call (.ok ())).closable.count _ ≤ _
    rw [hasks]
    exact Nat.zero_le _
  | cancels hactive _ _ hslot | drains hactive _ _ hslot =>
    rw [closable_of_none hactive, closable_of_active rfl, hslot]
    exact Nat.le_refl _
  | cancelled hactive | closes hactive | built hactive =>
    exact closes_of_active hactive rfl rfl rfl (Nat.le_add_left _ _)
  | spared hactive | closed hactive | unclosed hactive =>
    refine closes_of_active hactive rfl rfl rfl ?_
    rw [channels_nextPhase]
    exact Nat.zero_le _
  | opened hactive =>
    refine closes_of_active hactive rfl rfl rfl ?_
    simp [CallPhase.channels, Line.opens, List.count_singleton, List.countP_singleton]
  | unopened hactive | unbuilt hactive =>
    exact closes_of_none hactive rfl rfl (Nat.le_add_right _ _)
  | installed hactive => exact closes_of_none hactive rfl rfl (Nat.le_add_left _ _)
  | retired hactive =>
    rw [closable_of_active hactive, closable_of_none rfl]
    simp [Label.lines, CallPhase.closable, CallPhase.channels, retiredBy, answerTo]

theorem closes_happened (h : Happened w e w') (channel : Amqp.ChannelId) :
    (w.lines e).countP (Line.closes channel) + w'.consumer.closable.count channel ≤
      (w.lines e).countP (Line.opens channel) + w.consumer.closable.count channel := by
  cases h with
  | missed hnone =>
    rw [lines_of_missed hnone]
    exact Nat.le_refl _
  | took hstep hstepped =>
    rw [lines_of_step? hstep]
    exact closes_stepped hstepped channel
  | elsewhere => exact Nat.le_refl _
  | told hown =>
    rw [lines_of_not_own hown]
    exact Nat.le_refl _

/-- In a history a channel is asked to be closed at most as often as it was opened. -/
theorem closes_transcript (w : Site) (es : List Event) (channel : Amqp.ChannelId) :
    (w.transcript es).countP (Line.closes channel) + (w.after es).consumer.closable.count channel ≤
      (w.transcript es).countP (Line.opens channel) + w.consumer.closable.count channel := by
  induction es generalizing w with
  | nil => exact Nat.le_refl _
  | cons e rest ih =>
    have hstep := closes_happened (happened_next w e) channel
    have hrest := ih (w.next e)
    simp only [Site.transcript, List.countP_append, Site.after, List.foldl_cons] at hrest ⊢
    omega

/-! ## Deliveries -/

/-- No worker is left, and every delivery that was taken is handled by the law of settlement. -/
structure Handled (c : Consumer) : Prop where
  gone : ∀ k, c.crew.isDrained k = true
  settled : ∀ j ∈ c.crew.processor.jobs, ∃ result finish handlers es,
    j.result? = some (result, finish) ∧
      SettlementLaw { c.crew.processor with handlers } j.delivery es result

/-- Nothing is left to be done where no workers have still to be sent away. -/
theorem handled_after (settings : ConsumerSettings) (registry : Registry) (observers : List String)
    (s : Scene) (es : List Event) :
    let w := (⟨s, ofSettings settings registry observers⟩ : Site).after es
    w.consumer.tended = [] → Handled w.consumer := by
  intro w htended
  have hsound : Sound w.consumer :=
    (sound_ofSettings settings registry observers).after (w := ⟨s, _⟩) es
  obtain ⟨ms, hms⟩ : ∃ ms, w.consumer.crew.processor =
      (Processor.ofSettings settings registry observers).moves ms :=
    exists_processor_moves ⟨s, _⟩ es
  refine ⟨Crew.isDrained_of_views (hsound.gone htended), ?_⟩
  intro j hj
  have hover := hsound.finished htended j hj
  unfold Job.isOver at hover
  obtain ⟨⟨result, finish⟩, hresult⟩ := Option.isSome_iff_exists.1 hover
  rw [hms] at hj ⊢
  obtain ⟨handlers, es, hlaw⟩ :=
    Processor.settlementLaw_of_result? settings registry observers ms hj hresult
  exact ⟨result, finish, handlers, es, hresult, hlaw⟩

/-! ## After a stop -/

/-- A stop is over and no start has come after it, and whoever holds the lock is another stop that
has nothing to complain of. -/
structure Retired (c : Consumer) : Prop where
  stopped : Stopped c
  active : ∀ call phase, c.active = some (call, phase) → phase = .retiring (.ok ())

theorem retired_of_none (h : Stopped c) (hactive : c.active = none) : Retired c where
  stopped := h
  active call phase hsome := by
    rw [hactive] at hsome
    cases hsome

/-- The calls that have returned meanwhile have nothing to complain of. -/
def ReturnsWell (c c' : Consumer) : Prop :=
  ∃ rs, c'.returned = c.returned ++ rs ∧ ∀ r ∈ rs, r.2 = .ok ()

theorem returnsWell_of_eq (h : c'.returned = c.returned) : ReturnsWell c c' :=
  ⟨[], by rw [h, List.append_nil], by simp⟩

theorem returnsWell_answer {id : Nat} (h : c'.returned = c.returned ++ [(id, .ok ())]) :
    ReturnsWell c c' :=
  ⟨_, h, by simp⟩

theorem ReturnsWell.trans {c₁ c₂ c₃ : Consumer} (h : ReturnsWell c₁ c₂) (h' : ReturnsWell c₂ c₃) :
    ReturnsWell c₁ c₃ := by
  obtain ⟨rs, hrs, hok⟩ := h
  obtain ⟨rs', hrs', hok'⟩ := h'
  refine ⟨rs ++ rs', by rw [hrs', hrs, List.append_assoc], fun r hr => ?_⟩
  exact (List.mem_append.1 hr).elim (hok r) (hok' r)

theorem Retired.took (h : Retired w.consumer) (hstep : w.step? l = some w')
    (hl : l.isStart = false) :
    Retired w'.consumer ∧ l.lines w'.consumer = [] ∧ ReturnsWell w.consumer w'.consumer := by
  obtain ⟨hstopped, -, -⟩ := h.stopped.step hl (Site.step?_eq_some.1 hstep)
  have hwaits {call : Call} {phase : CallPhase} (hwas : w.consumer.active = some (call, phase)) :
      phase = .retiring (.ok ()) := h.active call phase hwas
  obtain ⟨s', c'⟩ := w'
  cases stepped_of_step (Site.step?_eq_some.1 hstep) with
  | start => cases hl
  | stop | found | hired | gone | rebuilds | passes | reconnected | channelClosed | work =>
    exact ⟨⟨hstopped, h.active⟩, rfl, returnsWell_of_eq rfl⟩
  | declined =>
    -- a call that was to subscribe does nothing
    exact ⟨retired_of_none hstopped rfl, rfl, returnsWell_answer rfl⟩
  | @vacant call _ _ _ hnone _ hadmitted _ =>
    -- the call is another stop
    have hpurpose : call.purpose = .stop := by
      by_contra hne
      have hstopping := hadmitted hne
      rw [h.stopped.status] at hstopping
      cases hstopping
    have hphase : nextPhase call (.ok ()) = .retiring (.ok ()) := if_pos hpurpose
    refine ⟨⟨hstopped, ?_⟩, ?_, returnsWell_of_eq rfl⟩
    · intro call' phase hactive
      obtain ⟨-, rfl⟩ := Prod.mk.inj (Option.some.inj hactive)
      exact hphase
    · simp only [Label.lines]
      rw [asks_of_active rfl, hphase]
      rfl
  | cancels _ _ _ hslot | drains _ _ _ hslot =>
    rw [h.stopped.slot] at hslot
    cases hslot
  | cancelled hwas | closes hwas | spared hwas | closed hwas | unclosed hwas | opened hwas
  | unopened hwas | built hwas | unbuilt hwas | installed hwas => cases hwaits hwas
  | retired hwas =>
    cases hwaits hwas
    exact ⟨retired_of_none hstopped rfl, rfl, returnsWell_answer rfl⟩

theorem Retired.happened (h : Retired w.consumer) (hw : Happened w e w') (he : e.isStart = false) :
    Retired w'.consumer ∧ w.lines e = [] ∧ ReturnsWell w.consumer w'.consumer := by
  cases hw with
  | missed hnone => exact ⟨h, lines_of_missed hnone, returnsWell_of_eq rfl⟩
  | took hstep _ =>
    rw [lines_of_step? hstep]
    exact h.took hstep he
  | elsewhere => exact ⟨h, rfl, returnsWell_of_eq rfl⟩
  | told hown hjobs _ =>
    exact ⟨⟨h.stopped.withProcessor hjobs, h.active⟩, lines_of_not_own hown, returnsWell_of_eq rfl⟩

/-- Until somebody starts the consumer again nothing is said, and every call that returns has
nothing to complain of. -/
theorem Retired.after (h : Retired w.consumer) {es : List Event}
    (hes : ∀ e ∈ es, e.isStart = false) :
    Retired (w.after es).consumer ∧ w.transcript es = [] ∧
      ReturnsWell w.consumer (w.after es).consumer := by
  induction es generalizing w with
  | nil => exact ⟨h, rfl, returnsWell_of_eq rfl⟩
  | cons e rest ih =>
    obtain ⟨hnext, hlines, hreturns⟩ := h.happened (happened_next w e) (hes e List.mem_cons_self)
    obtain ⟨hlast, hsilent, hreturns'⟩ := ih hnext fun e' he' => hes e' (List.mem_cons_of_mem e he')
    refine ⟨hlast, ?_, hreturns.trans hreturns'⟩
    rw [Site.transcript, hlines, hsilent, List.append_nil]

/-- A call gets the lock and comes to its end without an answer of anybody. -/
theorem Retired.exists_returned (h : Retired w.consumer) {rest : List Call}
    (hline : w.consumer.inLine = call :: rest) (connected : Bool) :
    ∃ ls : List Label, (∀ l ∈ ls, l = .enter connected ∨ l = .retire) ∧
      (w.after (ls.map .own)).consumer.inLine = rest ∧
      (w.after (ls.map .own)).consumer.returned =
        w.consumer.returned ++ [(call.id, .ok ())] := by
  cases hactive : w.consumer.active with
  | some holder =>
    obtain ⟨call', phase⟩ := holder
    obtain rfl := h.active call' phase hactive
    rw [inLine_of_active hactive] at hline
    obtain ⟨rfl, rfl⟩ := List.cons.inj hline
    refine ⟨[.retire], by simp, ?_⟩
    simp [Site.after, Site.next, Site.step?, Consumer.step, hactive, answerTo, inLine]
  | none =>
    rw [inLine_of_none hactive] at hline
    by_cases hpurpose : call.purpose = .stop
    · refine ⟨[.enter connected, .retire], by simp, ?_⟩
      simp [Site.after, Site.next, Site.step?, Consumer.step, takeSlot, proceed, hactive, hline,
        hpurpose, h.stopped.slot, answerTo, inLine]
    · refine ⟨[.enter connected], by simp, ?_⟩
      simp [Site.after, Site.next, Site.step?, Consumer.step, takeSlot, subscribed_eq, concluded,
        hactive, hline, hpurpose, h.stopped.status, inLine]

/-- All the calls that wait for the lock can return, one after the other. -/
theorem Retired.exists_returns (h : Retired w.consumer) (connected : Bool) :
    ∃ ls : List Label, (∀ l ∈ ls, l = .enter connected ∨ l = .retire) ∧
      (w.after (ls.map .own)).consumer.returned =
        w.consumer.returned ++ w.consumer.inLine.map fun call => (call.id, .ok ()) := by
  induction hline : w.consumer.inLine generalizing w with
  | nil => exact ⟨[], by simp, by simp [Site.after]⟩
  | cons call rest ih =>
    obtain ⟨ls, hls, hrest, hreturned⟩ := h.exists_returned hline connected
    have hstart : ∀ e ∈ ls.map Event.own, e.isStart = false := by
      intro e he
      obtain ⟨l, hl, rfl⟩ := List.mem_map.1 he
      rcases hls l hl with rfl | rfl <;> rfl
    obtain ⟨ls', hls', hreturned'⟩ := ih (h.after hstart).1 hrest
    refine ⟨ls ++ ls', ?_, ?_⟩
    · intro l hl
      exact (List.mem_append.1 hl).elim (hls l) (hls' l)
    · rw [List.map_append, Site.after, List.foldl_append]
      show ((w.after (ls.map .own)).after (ls'.map .own)).consumer.returned = _
      rw [hreturned', hreturned, List.append_assoc]
      rfl

theorem Sound.retired (h : Sound w.consumer) (hstep : w.step? .retire = some w') :
    Retired w'.consumer := by
  refine retired_of_none (h.stopped (Site.step?_eq_some.1 hstep)) ?_
  cases w'
  cases stepped_of_step (Site.step?_eq_some.1 hstep) with
  | retired => rfl

/-! ## The law -/

/-- A consumer is stopped: it has no subscription, no workers and no watcher. -/
structure Shut (w : Site) : Prop where
  status : w.consumer.status = .stopped
  held : w.consumer.held = []
  handled : Handled w.consumer
  watchToken : w.consumer.watchToken = none
  watchers : ∀ x ∈ w.consumer.watchers, w.scene.isCancelled x.token = true

/-- What holds of the releases of subscriptions and of the stops in a history, the account being
that of the call that holds the lock at its end. -/
structure ShutdownLaw (start : Site) (es : List Event) (w : Site) (a : Account) : Prop where
  /-- The account holds the last lines of the history. -/
  said : a.lines <:+ start.transcript es
  /-- What a call says is at any time the beginning of a release and of more that asks for no end; a
  stop says no more than the release. -/
  order : ∀ call phase, w.consumer.active = some (call, phase) →
    ∃ release released setup, Released a.found a.connected release released ∧
      a.lines <+: release ++ setup ∧ (∀ x ∈ setup, x.isEnding = false) ∧
      (call.purpose = .stop → setup = [])
  /-- A call that is past the end of the workers, above all one that asks for the channel to be
  closed, leaves no delivery behind that was taken. -/
  handled : ∀ call phase, w.consumer.active = some (call, phase) → phase.tended = [] →
    Handled w.consumer
  /-- A channel is asked to be closed at most as often as it was opened. -/
  once : ∀ channel, (start.transcript es).countP (Line.closes channel) ≤
    (start.transcript es).countP (Line.opens channel)
  /-- A stop that is first in line takes the lock and empties the slot. -/
  taken : ∀ call rest connected, w.consumer.active = none → w.consumer.waiting = call :: rest →
    call.purpose = .stop → ∃ w' phase, w.step? (.enter connected) = some w' ∧
      w'.consumer.active = some (call, phase) ∧ w'.consumer.slot = none
  goesOn : GoesOn w
  /-- A stop ends with a complete release, and its result is that of the release. -/
  ended : ∀ call phase l w', w.consumer.active = some (call, phase) → call.purpose = .stop →
    w.step? l = some w' → w'.consumer.active = none → Shut w' ∧
      ∃ result, Released a.found a.connected a.lines result ∧
        w'.consumer.returned = w.consumer.returned ++ [(call.id, result)]
  /-- The result of a release is an error only if the broker refused to close the channel. -/
  refused : ∀ found connected lines error, Released found connected lines (.error error) →
    ∃ old before, found = some old ∧ lines = before ++ [old.closeLine, .answered .refused]
  /-- Once a stop is over, and until somebody starts the consumer again, nothing is said, and the
  calls that are in line can all return and have nothing to complain of. -/
  further : ∀ w₁ more, w.step? .retire = some w₁ → (∀ e ∈ more, e.isStart = false) →
    w₁.transcript more = [] ∧
      ReturnsWell w₁.consumer (w₁.after more).consumer ∧
      ∀ connected, ∃ ls : List Label, (∀ l ∈ ls, l = .enter connected ∨ l = .retire) ∧
        ((w₁.after more).after (ls.map .own)).consumer.returned =
          (w₁.after more).consumer.returned ++
            (w₁.after more).consumer.inLine.map fun call => (call.id, .ok ())

/-- Only one step is the end of a stop. -/
theorem Informed.retires {settings : ConsumerSettings} {phase : CallPhase}
    (h : Informed settings w a) (hactive : w.consumer.active = some (call, phase))
    (hpurpose : call.purpose = .stop) (hstep : w.step? l = some w')
    (hend : w'.consumer.active = none) :
    ∃ result, phase = .retiring result ∧ w'.consumer = w.consumer.retiredBy call result := by
  obtain ⟨s', c'⟩ := w'
  have htold := h call phase hactive
  cases (stepped_of_step (Site.step?_eq_some.1 hstep)).concluded hactive hend with
  | unopened | unbuilt | installed =>
    -- a stop asks for no channel
    exact absurd hpurpose htold.1
  | retired => exact ⟨_, rfl, rfl⟩

/-- A consumer that is stopped is shut once nothing is under way: the tokens of all its watchers are
cancelled. -/
theorem shut_of_stopped (hwatched : Watched w.scene w.consumer)
    (hstatus : w.consumer.status = .stopped) (hslot : w.consumer.slot = none)
    (hactive : w.consumer.active = none) (hwatch : w.consumer.watchToken = none)
    (hhandled : Handled w.consumer) : Shut w := by
  refine ⟨hstatus, by simp [held, hactive, hslot], hhandled, hwatch, ?_⟩
  intro x hx
  obtain ⟨i, hi⟩ := List.getElem?_of_mem hx
  rcases hwatched.newest i x.token (getElem?_watchTokens hi) with hcancelled | ⟨hsome, -⟩
  · exact hcancelled
  · rw [hwatch] at hsome
    cases hsome

/-- A stop that is over has shut the consumer. -/
theorem shut_of_retiredBy {result : Outcome} (hwatched : Watched w.scene w.consumer)
    (hslot : w.consumer.slot = none) (hhandled : Handled w.consumer)
    (h : w.consumer = c.retiredBy call result) : Shut w :=
  shut_of_stopped hwatched (by rw [h]; rfl) hslot (by rw [h]; rfl) (by rw [h]; rfl) hhandled

/-- Whoever stops a consumer or subscribes anew has the broker cancel the old subscription first,
then waits until every delivery that was taken is handled, and only then has the channel closed,
once and if it is still open; and a stop that is over, whether or not the channel could be closed,
leaves a consumer on which further stops find nothing to do. -/
theorem shutdown_law (settings : ConsumerSettings) (registry : Registry) (observers : List String)
    (s : Scene) (es : List Event) :
    let start : Site := ⟨s, ofSettings settings registry observers⟩
    ShutdownLaw start es (start.after es) (start.account {} es) := by
  intro start
  have hinformed : Informed settings (start.after es) (start.account {} es) :=
    informed_after (informed_ofSettings s settings registry observers) es
  have hsound : Sound (start.after es).consumer :=
    (sound_ofSettings settings registry observers).after es
  refine ⟨start.suffix_transcript {} es, ?_, ?_, ?_, ?_, goesOn _, ?_,
    fun _ _ _ _ => Released.refused, ?_⟩
  · intro call phase hactive
    obtain ⟨release, released, hrelease, hprefix | ⟨hpurpose, setup, result, hsetup, hprefix⟩⟩ :=
      (hinformed call phase hactive).order
    · exact ⟨release, released, [], hrelease, hprefix.trans (List.prefix_append _ _), by simp,
        fun _ => rfl⟩
    · exact ⟨release, released, setup, hrelease, hprefix, hsetup.isEnding,
        fun hstop => absurd hstop hpurpose⟩
  · intro call phase hactive htended
    have htended' := (hsound.tended_eq hactive).trans htended
    exact handled_after settings registry observers s es htended'
  · intro channel
    have hcloses := closes_transcript start es channel
    have hnone : start.consumer.closable.count channel = 0 := rfl
    omega
  · intro call rest connected hactive hwaiting hpurpose
    exact exists_step_enter hactive hwaiting fun hne => absurd hpurpose hne
  · intro call phase l w' hactive hpurpose hstep hend
    obtain ⟨result, rfl, hretired⟩ := hinformed.retires hactive hpurpose hstep hend
    have hslot : (start.after es).consumer.slot = none := hsound.slot (by rw [hactive]; rfl)
    have hslot' : w'.consumer.slot = none := by
      rw [hretired]
      exact hslot
    -- the end of the stop is one more event
    have hlast : start.after (es ++ [.own l]) = (start.after es).next (.own l) := List.foldl_append
    have hafter : start.after (es ++ [.own l]) = w' := by simp [hlast, Site.next, hstep]
    have hwatched := watched_after (w := start) (watched_ofSettings s settings registry observers)
      (es ++ [.own l])
    have hhandled := handled_after settings registry observers s (es ++ [.own l])
    rw [hafter] at hwatched hhandled
    refine ⟨shut_of_retiredBy hwatched hslot' (hhandled ?_) hretired, result,
      (hinformed call _ hactive).2, ?_⟩
    · simp [tended, hend, hslot']
    · rw [hretired]
      rfl
  · intro w₁ more hstep hmore
    obtain ⟨hretired, hlines, hreturned⟩ := (hsound.retired hstep).after hmore
    exact ⟨hlines, hreturned, hretired.exists_returns⟩

end Consumer

end MessageBus
