import MessageBus.Proofs.Consumer.History

/-!
# What consumers say to brokers

What passes between a consumer and the broker is a list of lines, with the ends of the workers in
between. A call that holds the lock first releases the subscription it found (`Released`) and then,
if it was to subscribe, sets up a new one (`SetUp`). How far it has come can be told from the lines
since it took the lock, in every history (`informed_after`). Each answer that a call waits for
brings it nearer to its end (`goesOn`).
-/

set_option autoImplicit false

namespace MessageBus

/-- One line of what a consumer and the broker say to each other. -/
inductive Line where
  | asked (request : Request)
  | answered (reply : Reply)
  /-- The workers of a subscription are gone, and its channel is open then or not. -/
  | drained (channelOpen : Bool)

namespace Subscription

/-- The consumer asks the broker to cancel a subscription. -/
def cancelLine (s : Subscription) : Line := .asked (.on s.channel (.cancel s.tag))

/-- The consumer asks the broker to close the channel of a subscription. -/
def closeLine (s : Subscription) : Line :=
  .asked (.on s.channel (.closeChannel 200 "consumer stopped"))

end Subscription

/-! ## What is said in a call -/

/-- How a call releases what it found in the slot, the connection being up or not: what is said,
and whether the channel could be closed. -/
inductive Released : Option Subscription → Bool → List Line → Outcome → Prop where
  | nothing {connected : Bool} : Released none connected [] (.ok ())
  /-- With the connection down the broker is asked for nothing. -/
  | offline {old : Subscription} {channelOpen : Bool} :
      Released (some old) false [.drained channelOpen] (.ok ())
  /-- The channel is not open any more when the workers are gone. -/
  | lost {old : Subscription} {r : Reply} (hr : r = .granted ∨ r = .refused) :
      Released (some old) true [old.cancelLine, .answered r, .drained false] (.ok ())
  | closed {old : Subscription} {r : Reply} (hr : r = .granted ∨ r = .refused) :
      Released (some old) true
        [old.cancelLine, .answered r, .drained true, old.closeLine, .answered .granted] (.ok ())
  | unclosed {old : Subscription} {r : Reply} (hr : r = .granted ∨ r = .refused) :
      Released (some old) true
        [old.cancelLine, .answered r, .drained true, old.closeLine, .answered .refused]
        (.error Consumer.unclosedError)

namespace ConsumerSettings

/-- The requests on a new channel: the prefetch, the exchange, the queue and the binding as they are
configured, and the subscription, under the names that are resolved once for all of them. -/
def setupMethods (s : ConsumerSettings) (tag : String) : List Amqp.Method :=
  let names := TopologyNames.resolve s.messageType s.exchange s.queue s.binding
  [.prefetch s.prefetch, .declareExchange names.exchange s.exchange,
    .declareQueue names.queue s.queue,
    .bindQueue names.queue names.exchange names.routingKey s.binding.arguments,
    .consume names.queue tag s.autoAck]

/-- The errors when they are refused. -/
def setupErrors (s : ConsumerSettings) : List BusError :=
  let names := TopologyNames.resolve s.messageType s.exchange s.queue s.binding
  [.prefetch names.queue, .exchangeDeclaration names.exchange, .queueDeclaration names.queue,
    .binding names.exchange names.queue, .subscription names.queue]

end ConsumerSettings

/-- Some requests on a channel, all granted. -/
def granted (channel : Amqp.ChannelId) (methods : List Amqp.Method) : List Line :=
  methods.flatMap fun method => [.asked (.on channel method), .answered .granted]

/-- A channel is asked for and opened. -/
def openedLines (channel : Amqp.ChannelId) : List Line :=
  [.asked .openChannel, .answered (.opened channel)]

/-- How a call sets up a new subscription: what is said, and the channel and the tag it has in the
end, or the error of the one request that failed, which is the last. -/
inductive SetUp (s : ConsumerSettings) :
    List Line → Except BusError (Amqp.ChannelId × String) → Prop where
  | unopened {e : BusError} :
      SetUp s [.asked .openChannel, .answered (.noChannel e)] (.error e)
  | refused {channel : Amqp.ChannelId} {tag : String} {n : Nat} {method : Amqp.Method}
      {error : BusError} (hmethod : (s.setupMethods tag)[n]? = some method)
      (herror : s.setupErrors[n]? = some error) :
      SetUp s
        (openedLines channel ++ granted channel ((s.setupMethods tag).take n) ++
          [.asked (.on channel method), .answered .refused])
        (.error error)
  | done {channel : Amqp.ChannelId} {tag : String} :
      SetUp s (openedLines channel ++ granted channel (s.setupMethods tag)) (.ok (channel, tag))

namespace SetupStep

/-- Where a request stands among those on a new channel. -/
def place : SetupStep → Nat
  | prefetch => 0
  | exchange => 1
  | queue => 2
  | binding => 3
  | consume => 4

theorem place_lt (step : SetupStep) : step.place < 5 := by
  cases step <;> decide

theorem place_next {step next : SetupStep} (h : step.next? = some next) :
    next.place = step.place + 1 := by
  cases step <;> cases h <;> rfl

theorem getElem?_setupMethods (s : ConsumerSettings) (tag : String) (step : SetupStep) :
    (s.setupMethods tag)[step.place]? = some (step.method s s.names tag) := by
  cases step <;> rfl

theorem getElem?_setupErrors (s : ConsumerSettings) (step : SetupStep) :
    s.setupErrors[step.place]? = some (step.error s.names) := by
  cases step <;> rfl

end SetupStep

theorem granted_take_succ {channel : Amqp.ChannelId} {methods : List Amqp.Method} {n : Nat}
    {method : Amqp.Method} (h : methods[n]? = some method) :
    granted channel (methods.take (n + 1)) =
      granted channel (methods.take n) ++ [.asked (.on channel method), .answered .granted] := by
  unfold granted
  rw [List.take_add_one, h, List.flatMap_append]
  rfl

/-- What a call asks that waits in a phase. -/
def CallPhase.asks (s : ConsumerSettings) : CallPhase → List Line
  | .cancelling old => [old.cancelLine]
  | .closing old => [old.closeLine]
  | .opening => [.asked .openChannel]
  | .building step channel tag => [.asked (.on channel (step.method s s.names tag))]
  | .draining _ _ | .retiring _ => []

/-- Whether a step is one that a call waits for in a phase. -/
def CallPhase.awaits : CallPhase → Consumer.Label → Bool
  | .cancelling _, .reply r | .closing _, .reply r | .building _ _ _, .reply r =>
    match r with
    | .granted | .refused => true
    | _ => false
  | .opening, .reply r =>
    match r with
    | .opened _ | .noChannel _ => true
    | _ => false
  | .draining _ _, .drained _ => true
  | .retiring _, .retire => true
  | _, _ => false

/-- How many steps there are at most to the end of a call that waits in a phase. -/
def CallPhase.distance : CallPhase → Nat
  | .cancelling _ => 9
  | .draining _ _ => 8
  | .closing _ => 7
  | .opening => 6
  | .building step _ _ => 5 - step.place
  | .retiring _ => 1

namespace Consumer

/-! ## What is said in a history -/

/-- What the consumer asks as it now is. -/
def asks (c : Consumer) : List Line := (c.request?.map Line.asked).toList

/-- The lines that a step adds, when it leads to `c`. -/
def Label.lines (c : Consumer) : Label → List Line
  | .enter _ => c.asks
  | .reply r => .answered r :: c.asks
  | .drained channelOpen => .drained channelOpen :: c.asks
  | _ => []

/-- The lines that an event adds. -/
def Site.lines (w : Site) : Event → List Line
  | .own l =>
    match w.step? l with
    | some w' => l.lines w'.consumer
    | none => []
  | _ => []

/-- Everything that is said in a history. -/
def Site.transcript (w : Site) : List Event → List Line
  | [] => []
  | e :: es => w.lines e ++ (w.next e).transcript es

/-- What is known of the last call that took the lock: what it found in the slot, whether the
connection was up, and what has been said since. -/
structure Account where
  found : Option Subscription := none
  connected : Bool := false
  lines : List Line := []

/-- The account after an event. -/
def Account.next (a : Account) (w : Site) : Event → Account
  | .own (.enter connected) =>
    match w.step? (.enter connected) with
    | some w' => ⟨w.consumer.slot, connected, w'.consumer.asks⟩
    | none => a
  | e => { a with lines := a.lines ++ w.lines e }

/-- The account after some events. -/
def Site.account (w : Site) (a : Account) : List Event → Account
  | [] => a
  | e :: es => (w.next e).account (a.next w e) es

/-- The account holds the last lines of all that was said. -/
theorem Site.suffix_transcript (w : Site) (a : Account) (es : List Event) :
    (w.account a es).lines <:+ a.lines ++ w.transcript es := by
  induction es generalizing w a with
  | nil => exact ⟨[], by simp [account, transcript]⟩
  | cons e rest ih =>
    refine (ih (w.next e) (a.next w e)).trans ?_
    have hnext : (a.next w e).lines <:+ a.lines ++ w.lines e := by
      unfold Account.next
      split
      · next connected =>
        unfold Site.lines
        split <;> next hstep => simp [hstep, Label.lines]
      · exact List.suffix_refl _
    obtain ⟨earlier, hearlier⟩ := hnext
    refine ⟨earlier, ?_⟩
    show _ = a.lines ++ (w.lines e ++ (w.next e).transcript rest)
    rw [← List.append_assoc, ← List.append_assoc, hearlier]

/-- Whatever is asked in a history is what the consumer asks at some time. -/
theorem exists_request_of_mem_transcript {w : Site} {es : List Event} {r : Request}
    (h : .asked r ∈ w.transcript es) :
    ∃ c : Consumer, c.settings = w.consumer.settings ∧ c.request? = some r := by
  induction es generalizing w with
  | nil => cases h
  | cons e rest ih =>
    have hsettings : (w.next e).consumer.settings = w.consumer.settings := settings_after w [e]
    rcases List.mem_append.1 h with hnow | hlater
    · refine ⟨(w.next e).consumer, hsettings, ?_⟩
      -- only a step of its own has lines, and of these it asks in the last one
      cases e with
      | elsewhere | connectHandler | addObserver => cases hnow
      | own l =>
        cases hstep : w.step? l with
        | none =>
          rw [Site.lines, hstep] at hnow
          cases hnow
        | some w' =>
          rw [Site.lines, hstep] at hnow
          have hnext : w.next (.own l) = w' := by rw [Site.next, hstep, Option.getD_some]
          have hasks : .asked r ∈ w'.consumer.asks := by
            cases l <;> simp_all [Label.lines]
          rw [hnext]
          simpa [asks] using hasks
    · obtain ⟨c, hc, hr⟩ := ih hlater
      exact ⟨c, hc.trans hsettings, hr⟩

/-- What is asked on a channel belongs to a setup, or to a release. -/
theorem method_of_mem_transcript {w : Site} {es : List Event} {channel : Amqp.ChannelId}
    {m : Amqp.Method} (h : .asked (.on channel m) ∈ w.transcript es) :
    (∃ (step : SetupStep) (tag : String),
        m = step.method w.consumer.settings w.consumer.settings.names tag) ∨
      (∃ tag, m = .cancel tag) ∨ m = .closeChannel 200 "consumer stopped" := by
  obtain ⟨c, hc, hr⟩ := exists_request_of_mem_transcript h
  unfold request? at hr
  split at hr
  · cases hr
    exact .inr (.inl ⟨_, rfl⟩)
  · cases hr
    exact .inr (.inr rfl)
  · cases hr
  · next step _ tag _ =>
    cases hr
    exact .inl ⟨step, tag, by rw [names, hc]⟩
  · cases hr

/-! ## How far a call has come -/

/-- What a call has said so far that waits in a phase. -/
def Told (s : ConsumerSettings) (a : Account) (call : Call) : CallPhase → Prop
  | .cancelling old => a.found = some old ∧ a.connected = true ∧ a.lines = [old.cancelLine]
  | .draining old connected =>
    a.found = some old ∧ a.connected = connected ∧
      if connected then
        ∃ r, (r = Reply.granted ∨ r = .refused) ∧ a.lines = [old.cancelLine, .answered r]
      else a.lines = []
  | .closing old =>
    a.found = some old ∧ a.connected = true ∧ ∃ r, (r = Reply.granted ∨ r = .refused) ∧
      a.lines = [old.cancelLine, .answered r, .drained true, old.closeLine]
  | .opening =>
    call.purpose ≠ .stop ∧ ∃ release result, Released a.found a.connected release result ∧
      a.lines = release ++ [.asked .openChannel]
  | .building step channel tag =>
    call.purpose ≠ .stop ∧ ∃ release result, Released a.found a.connected release result ∧
      a.lines = release ++ (openedLines channel ++
        granted channel ((s.setupMethods tag).take step.place) ++
        [.asked (.on channel (step.method s s.names tag))])
  | .retiring result => call.purpose = .stop ∧ Released a.found a.connected a.lines result

/-- The account tells how far the call has come that holds the lock. -/
def Informed (s : ConsumerSettings) (w : Site) (a : Account) : Prop :=
  ∀ call phase, w.consumer.active = some (call, phase) → Told s a call phase

theorem informed_ofSettings (s : Scene) (settings : ConsumerSettings) (registry : Registry)
    (observers : List String) :
    Informed settings ⟨s, ofSettings settings registry observers⟩ {} := by
  intro call phase hnone
  cases hnone

variable {s : ConsumerSettings} {w w' : Site} {a : Account} {call : Call} {l : Label} {e : Event}

theorem lines_of_step? (h : w.step? l = some w') : w.lines (.own l) = l.lines w'.consumer := by
  simp only [Site.lines, h]

theorem lines_of_missed (h : w.step? l = none) : w.lines (.own l) = [] := by
  simp only [Site.lines, h]

theorem account_next_enter {connected : Bool} (h : w.step? (.enter connected) = some w') :
    a.next w (.own (.enter connected)) = ⟨w.consumer.slot, connected, w'.consumer.asks⟩ := by
  simp only [Account.next, h]

theorem account_next_eq (he : ∀ connected, e ≠ .own (.enter connected)) :
    a.next w e = { a with lines := a.lines ++ w.lines e } := by
  unfold Account.next
  split
  · next connected => exact absurd rfl (he connected)
  · rfl

/-- Nothing is said. -/
theorem account_next_of_nil (he : ∀ connected, e ≠ .own (.enter connected))
    (hnil : w.lines e = []) : a.next w e = a := by
  rw [account_next_eq he, hnil, List.append_nil]

theorem asks_of_active {c : Consumer} {phase : CallPhase} (h : c.active = some (call, phase)) :
    c.asks = phase.asks c.settings := by
  unfold asks request?
  rw [h]
  cases phase <;> rfl

/-- Once nothing is left of the old subscription, a stop goes on to its end, and another call asks
for a channel. -/
theorem told_nextPhase {c : Consumer} {lines : List Line} {result : Outcome}
    (h : Released a.found a.connected lines result)
    (hactive : c.active = some (call, nextPhase call result)) :
    Told s ⟨a.found, a.connected, lines ++ c.asks⟩ call (nextPhase call result) := by
  rw [asks_of_active hactive]
  unfold nextPhase
  split
  · next hstop =>
    -- nothing is asked any more
    refine ⟨hstop, ?_⟩
    show Released a.found a.connected (lines ++ []) result
    rwa [List.append_nil]
  · next hpurpose => exact ⟨hpurpose, lines, result, h, rfl⟩

theorem told_nextPhase_cons {c : Consumer} {line : Line} {result : Outcome}
    (h : Released a.found a.connected (a.lines ++ [line]) result)
    (hactive : c.active = some (call, nextPhase call result)) :
    Told s ⟨a.found, a.connected, a.lines ++ line :: c.asks⟩ call (nextPhase call result) := by
  have htold : Told s _ call (nextPhase call result) := told_nextPhase h hactive
  rwa [List.append_assoc] at htold

/-- The workers are gone, and there is no channel to close. -/
theorem Told.spared {old : Subscription} {connected channelOpen : Bool}
    (h : Told s a call (.draining old connected)) (hdead : (connected && channelOpen) = false) :
    Released a.found a.connected (a.lines ++ [.drained channelOpen]) (.ok ()) := by
  obtain ⟨hfound, rfl, hsofar⟩ := h
  rw [hfound]
  cases hconnected : a.connected with
  | false =>
    rw [hconnected, if_neg (by decide)] at hsofar
    rw [hsofar]
    exact .offline
  | true =>
    rw [hconnected] at hdead hsofar
    obtain rfl : channelOpen = false := hdead
    obtain ⟨r, hr, hlines⟩ := hsofar
    rw [hlines]
    exact .lost hr

/-- The broker has answered to the closing of the channel. -/
theorem Told.closed {old : Subscription} (h : Told s a call (.closing old)) :
    Released a.found a.connected (a.lines ++ [.answered .granted]) (.ok ()) ∧
      Released a.found a.connected (a.lines ++ [.answered .refused])
        (.error Consumer.unclosedError) := by
  obtain ⟨hfound, hconnected, r, hr, hlines⟩ := h
  rw [hfound, hconnected, hlines]
  exact ⟨.closed hr, .unclosed hr⟩

theorem Informed.took (h : Informed w.consumer.settings w a) (hstep : w.step? l = some w') :
    Informed w.consumer.settings w' (a.next w (.own l)) := by
  obtain ⟨s', c'⟩ := w'
  have hlines : w.lines (.own l) = l.lines c' := lines_of_step? hstep
  have hstepped : Stepped w.scene w.consumer l s' c' := Site.stepped_of_step? hstep
  intro call phase hactive
  have hsilent (hl : ∀ connected, Event.own l ≠ .own (.enter connected)) (hnil : l.lines c' = [])
      (hsame : c'.active = w.consumer.active) :
      Told w.consumer.settings (a.next w (.own l)) call phase := by
    rw [account_next_of_nil hl (hlines.trans hnil)]
    exact h call phase (hsame ▸ hactive)
  have hsaid (hl : ∀ connected, Event.own l ≠ .own (.enter connected)) :
      a.next w (.own l) = ⟨a.found, a.connected, a.lines ++ l.lines c'⟩ := by
    rw [account_next_eq hl, hlines]
  cases hstepped with
  | start | stop | found | hired | gone | rebuilds | passes | reconnected | channelClosed | work =>
    exact hsilent (by simp) rfl rfl
  | declined | unopened | unbuilt | installed | retired => cases hactive
  | vacant _ _ _ hslot =>
    obtain ⟨rfl, rfl⟩ := Prod.mk.inj (Option.some.inj hactive)
    rw [account_next_enter hstep, hslot]
    exact told_nextPhase (a := ⟨none, _, []⟩) .nothing rfl
  | cancels _ _ _ hslot =>
    obtain ⟨rfl, rfl⟩ := Prod.mk.inj (Option.some.inj hactive)
    rw [account_next_enter hstep]
    exact ⟨hslot, rfl, rfl⟩
  | drains _ _ _ hslot =>
    obtain ⟨rfl, rfl⟩ := Prod.mk.inj (Option.some.inj hactive)
    rw [account_next_enter hstep]
    exact ⟨hslot, rfl, rfl⟩
  | @cancelled _ old r _ hwas hr =>
    obtain ⟨rfl, rfl⟩ := Prod.mk.inj (Option.some.inj hactive)
    obtain ⟨hfound, hconnected, hsofar⟩ := h _ _ hwas
    rw [hsaid (by simp), hsofar]
    exact ⟨hfound, hconnected, r, hr, rfl⟩
  | closes hwas =>
    obtain ⟨rfl, rfl⟩ := Prod.mk.inj (Option.some.inj hactive)
    obtain ⟨hfound, hconnected, r, hr, hsofar⟩ := h _ _ hwas
    rw [hsaid (by simp), hsofar]
    exact ⟨hfound, hconnected, r, hr, rfl⟩
  | spared hwas _ hdead =>
    obtain ⟨rfl, rfl⟩ := Prod.mk.inj (Option.some.inj hactive)
    rw [hsaid (by simp)]
    exact told_nextPhase_cons ((h _ _ hwas).spared hdead) rfl
  | closed hwas =>
    obtain ⟨rfl, rfl⟩ := Prod.mk.inj (Option.some.inj hactive)
    rw [hsaid (by simp)]
    exact told_nextPhase_cons (h _ _ hwas).closed.1 rfl
  | unclosed hwas =>
    obtain ⟨rfl, rfl⟩ := Prod.mk.inj (Option.some.inj hactive)
    rw [hsaid (by simp)]
    exact told_nextPhase_cons (h _ _ hwas).closed.2 rfl
  | opened hwas =>
    obtain ⟨rfl, rfl⟩ := Prod.mk.inj (Option.some.inj hactive)
    obtain ⟨hpurpose, release, result, hrelease, hsofar⟩ := h _ _ hwas
    rw [hsaid (by simp), hsofar]
    refine ⟨hpurpose, release, result, hrelease, ?_⟩
    rw [List.append_assoc]
    rfl
  | built hwas hnext =>
    obtain ⟨rfl, rfl⟩ := Prod.mk.inj (Option.some.inj hactive)
    obtain ⟨hpurpose, release, result, hrelease, hsofar⟩ := h _ _ hwas
    rw [hsaid (by simp), hsofar]
    refine ⟨hpurpose, release, result, hrelease, ?_⟩
    rw [SetupStep.place_next hnext, granted_take_succ (SetupStep.getElem?_setupMethods _ _ _)]
    simp only [List.append_assoc]
    rfl

theorem account_next_of_missed (h : w.step? l = none) : a.next w (.own l) = a := by
  unfold Account.next
  split
  · next heq =>
    obtain rfl := Event.own.inj heq
    rw [h]
  · rw [lines_of_missed h, List.append_nil]

theorem lines_of_not_own (he : ∀ l, e ≠ .own l) : w.lines e = [] := by
  cases e with
  | own l => exact absurd rfl (he l)
  | elsewhere | connectHandler | addObserver => rfl

theorem Informed.happened (h : Informed w.consumer.settings w a) (hw : Happened w e w') :
    Informed w.consumer.settings w' (a.next w e) := by
  have hsilent (he : ∀ l, e ≠ .own l) : a.next w e = a :=
    account_next_of_nil (fun connected => he (.enter connected)) (lines_of_not_own he)
  cases hw with
  | missed hnone =>
    rw [account_next_of_missed hnone]
    exact h
  | took hstep _ => exact h.took hstep
  | elsewhere _ =>
    rw [hsilent (by simp)]
    exact h
  | told hown _ _ =>
    rw [hsilent hown]
    exact h

/-- In every history the account tells how far the call has come that holds the lock. -/
theorem informed_after (h : Informed w.consumer.settings w a) (es : List Event) :
    Informed w.consumer.settings (w.after es) (w.account a es) := by
  induction es generalizing w a with
  | nil => exact h
  | cons e rest ih =>
    have hsettings : (w.next e).consumer.settings = w.consumer.settings := settings_after w [e]
    have hnext := h.happened (happened_next w e)
    rw [← hsettings] at hnext ⊢
    exact ih hnext

/-! ## What a call waits for -/

/-- The first call in line can take the lock, unless it was to subscribe and a stop has begun. -/
theorem exists_step_enter {rest : List Call} {connected : Bool} (hactive : w.consumer.active = none)
    (hwaiting : w.consumer.waiting = call :: rest)
    (hadmitted : call.purpose ≠ .stop → w.consumer.status.isStopping = false) :
    ∃ w' phase, w.step? (.enter connected) = some w' ∧
      w'.consumer.active = some (call, phase) ∧ w'.consumer.slot = none := by
  have hstep : ∃ w', w.step? (.enter connected) = some w' := by
    simp [Site.step?, Consumer.step, hactive, hwaiting]
  obtain ⟨⟨s', c'⟩, hstep⟩ := hstep
  have hcall {call' : Call} {rest' : List Call} (h : w.consumer.waiting = call' :: rest') :
      call' = call := (List.cons.inj (h.symm.trans hwaiting)).1
  refine ⟨⟨s', c'⟩, ?_⟩
  cases stepped_of_step (Site.step?_eq_some.1 hstep) with
  | declined _ h hpurpose hdeclined =>
    obtain rfl := hcall h
    rw [hadmitted hpurpose] at hdeclined
    cases hdeclined
  | vacant _ h _ hslot =>
    obtain rfl := hcall h
    exact ⟨_, hstep, rfl, hslot⟩
  | cancels _ h | drains _ h =>
    obtain rfl := hcall h
    exact ⟨_, hstep, rfl, rfl⟩

theorem distance_nextPhase_le (call : Call) (result : Outcome) :
    (nextPhase call result).distance ≤ 6 := by
  unfold nextPhase
  split <;> simp [CallPhase.distance]

theorem isSome_step_of_awaits {s : Scene} {c : Consumer} {phase : CallPhase}
    (hactive : c.active = some (call, phase)) (hl : phase.awaits l = true)
    (hdrained : ∀ old connected, phase = .draining old connected →
      c.crew.isDrained old.pool = true) : (c.step s l).isSome = true := by
  unfold CallPhase.awaits at hl
  split at hl
  · -- the broker answers to the cancelling
    split at hl <;> simp_all [Consumer.step, replied]
  · -- the broker answers to the closing
    split at hl <;> simp_all [Consumer.step, replied]
  · next step channel tag r =>
    cases step <;> split at hl <;> simp_all [Consumer.step, replied, SetupStep.next?]
  · split at hl <;> simp_all [Consumer.step, replied]
  · next old connected channelOpen =>
    cases connected <;> cases channelOpen <;> simp [Consumer.step, hactive, hdrained old _ rfl]
  · simp [Consumer.step, hactive]
  · cases hl

/-- Every answer that the call which holds the lock waits for can be given, and brings it nearer to
its end. The end of the workers comes when they are gone. -/
def GoesOn (w : Site) : Prop :=
  ∀ call phase l, w.consumer.active = some (call, phase) → phase.awaits l = true →
    (∀ old connected, phase = .draining old connected → w.consumer.crew.isDrained old.pool = true) →
    ∃ w', w.step? l = some w' ∧ ∀ call' phase', w'.consumer.active = some (call', phase') →
      call' = call ∧ phase'.distance < phase.distance

theorem goesOn (w : Site) : GoesOn w := by
  intro call phase l hactive hl hdrained
  obtain ⟨⟨s', c'⟩, hstep⟩ :=
    Option.isSome_iff_exists.1 (isSome_step_of_awaits (s := w.scene) hactive hl hdrained)
  refine ⟨⟨s', c'⟩, Site.step?_eq_some.2 hstep, ?_⟩
  intro call' phase' hactive'
  cases stepped_of_step hstep with
  | start | stop | found | hired | declined | vacant | cancels | drains | gone | rebuilds | passes
  | reconnected | channelClosed | work => cases phase <;> cases hl
  | unopened | unbuilt | installed | retired => cases hactive'
  | cancelled hwas | closes hwas | opened hwas =>
    obtain ⟨rfl, rfl⟩ := Prod.mk.inj (Option.some.inj hactive')
    obtain ⟨rfl, rfl⟩ := holder_eq hwas hactive
    exact ⟨rfl, by simp [CallPhase.distance, SetupStep.place]⟩
  | spared hwas | closed hwas | unclosed hwas =>
    obtain ⟨rfl, rfl⟩ := Prod.mk.inj (Option.some.inj hactive')
    obtain ⟨rfl, rfl⟩ := holder_eq hwas hactive
    exact ⟨rfl, Nat.lt_of_le_of_lt (distance_nextPhase_le _ _) (by simp [CallPhase.distance])⟩
  | @built _ _ next _ _ hwas hnext =>
    obtain ⟨rfl, rfl⟩ := Prod.mk.inj (Option.some.inj hactive')
    obtain ⟨rfl, rfl⟩ := holder_eq hwas hactive
    refine ⟨rfl, ?_⟩
    show 5 - _ < 5 - _
    have hplace := SetupStep.place_next hnext
    have hlt := SetupStep.place_lt next
    omega

end Consumer

end MessageBus
