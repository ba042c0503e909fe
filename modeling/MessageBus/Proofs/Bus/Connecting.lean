import MessageBus.Message.Catalogue
import MessageBus.Proofs.Bus.Rest
import MessageBus.Proofs.Bus.Starting

/-!
# Buses that could not be connected

To connect a bus is to dial the broker, to look at the settings, and to start the consumers in
order. Each can fail, and what was done before is not undone (`connect_not_undone`): the consumers
that have started stay subscribed, until somebody cancels the token they were given. Main statement:
`connect_law`.
-/

set_option autoImplicit false

namespace MessageBus

/-! ## Dialing -/

namespace Connection

theorem links_of_dial_none {b b' : Amqp.Broker} {login : Amqp.Login} {name vhost : String}
    {channelMax : Option Nat} (h : b.dial login name vhost channelMax = (none, b')) :
    b'.links = b.links := by
  unfold Amqp.Broker.dial at h
  split at h
  · rw [← (Prod.mk.inj h).2]
  · dsimp only at h
    split at h
    · rw [← (Prod.mk.inj h).2]
      rfl
    · split at h
      · rw [← (Prod.mk.inj h).2]
        rfl
      · cases h

/-- The first call for a link dials. -/
theorem connect_new (settings : Settings) (s : Scene) :
    connect { settings } s =
      match ({ settings } : Connection).dial s with
      | (none, s') => (.error unreachableError,
          { settings, returned := [(0, .error unreachableError)] }, s')
      | (some link, s') => (.ok (),
          { settings, link := some link, links := [link], isConnected := true,
            returned := [(0, .ok ())] }, s') := by
  have hfirst : ({ settings } : Connection).perform s (.connect 0) =
      { settings, dialing := [0] } := rfl
  have hresult : ({ settings, dialing := [0] } : Connection).result? 0 = none := rfl
  have hnext : ({ settings } : Connection).nextCall = 0 := rfl
  have hdial : ({ settings, dialing := [0] } : Connection).dial s =
      ({ settings } : Connection).dial s := by simp only [dial]
  simp only [connect, hnext, hfirst, hresult, hdial]
  rcases ({ settings } : Connection).dial s with ⟨_ | link, s'⟩
  · simp [perform, step, answerTo, result?]
  · simp [perform, step, answerTo, install, result?]

/-- A connection is dialed, or the broker cannot be reached and there is no new link. -/
theorem establish_cases (settings : Settings) (s : Scene) :
    (∃ s', establish settings s = (.error unreachableError, s') ∧
      s'.broker.links = s.broker.links) ∨
    ∃ c s', establish settings s = (.ok c, s') ∧ s.Onward s' ∧
      (settings.reconnecting = false → c.loop = .absent) := by
  have honward := Bus.onward_dial { settings } s
  rcases hdial : ({ settings } : Connection).dial s with ⟨link, s'⟩
  rw [hdial] at honward
  have hconnect := connect_new settings s
  rw [hdial] at hconnect
  cases link with
  | none =>
    refine .inl ⟨s', ?_, ?_⟩
    · unfold establish
      rw [hconnect]
    · simp only [dial] at hdial
      cases haddress : settings.address? with
      | none =>
        rw [haddress] at hdial
        rw [← (Prod.mk.inj hdial).2]
      | some address =>
        rw [haddress] at hdial
        obtain ⟨hlink, hscene⟩ := Prod.mk.inj hdial
        rw [← hscene]
        exact links_of_dial_none (Prod.ext hlink rfl)
  | some link =>
    let dialed : Connection :=
      { settings, link := some link, links := [link], isConnected := true,
        returned := [(0, .ok ())] }
    refine .inr ⟨if settings.reconnecting then dialed.perform s' .startLoop else dialed, s', ?_,
      honward, fun hloop => ?_⟩
    · unfold establish
      rw [hconnect]
    · rw [hloop]
      rfl

end Connection

/-! ## The bus that nobody has -/

namespace Bus

open Consumer (SentAway Site Untouched)

variable {s s' : Scene} {b b' : Bus} {reconnecting : Bool} {token : Token}

/-- A bus that nobody has in hand any more, and that has no loop unless it was to reconnect. -/
structure LetGo (reconnecting : Bool) (b : Bus) : Prop where
  hand : b.isInHand = false
  loop : reconnecting = false → b.connection.loop = .absent

/-- Such a bus goes on without calls, and stays so. -/
theorem LetGo.next (h : LetGo reconnecting b) (hnext : Next s b s' b') :
    Moved s b s' b' ∧ LetGo reconnecting b' := by
  have hhand := h.hand
  simp only [isInHand, Bool.or_eq_false_iff] at hhand
  obtain ⟨hheld, hseries⟩ := hhand
  cases hnext with
  | moved hmoved =>
    refine ⟨hmoved, ?_, fun hloop => hmoved.loop (h.loop hloop)⟩
    rw [isInHand, hmoved.isHeld, hmoved.series, hheld, hseries]
    rfl
  | called hc hopen =>
    have hover := List.any_eq_false.1 hseries _ (List.mem_of_getElem? hc)
    simp [hopen] at hover

/-- What there is of a bus on which the start of consumer number `n` has failed. -/
structure Unstarted (consumers : List ConsumerSettings) (token : Token) (error : BusError) (n : Nat)
    (s : Scene) (b : Bus) : Prop where
  /-- There is a consumer for each settings, in their order. -/
  settings : b.consumers.map Consumer.settings = consumers
  /-- Those before it have started: the start of each has left a subscription with its workers, and
  nobody has called it since. -/
  before : ∀ j < n, ∀ c, b.consumers[j]? = some c → Site.LeftSince (.ok ()) ⟨s, c⟩
  /-- Its own start has left no subscription, and it was not called since. -/
  failed : ∀ c, b.consumers[n]? = some c → Site.LeftSince (.error error) ⟨s, c⟩
  behind : ∀ j > n, ∀ c, b.consumers[j]? = some c → Untouched c
  /-- Cancelling the token of the start sends away the workers and watchers of all of them. -/
  sentAway : s.isCancelled token = true → ∀ c ∈ b.consumers, SentAway ⟨s, c⟩

/-- The consumers of some settings, as they are made. -/
def fresh (registry : Registry) (consumers : List ConsumerSettings) : List Consumer :=
  consumers.map fun x => Consumer.ofSettings x registry []

variable {s₀ : Scene} {registry : Registry} {consumers : List ConsumerSettings} {error : BusError}
  {n : Nat} {cs : List Consumer}

theorem of_ofSettings {connection : Connection} {producers : List ProducerSettings}
    (h : ofSettings connection registry consumers producers = .ok b) :
    b.connection = connection ∧ b.consumers = fresh registry consumers ∧ b.series = [] := by
  simp only [ofSettings, bind, Except.bind] at h
  split at h
  · cases h
  · split at h
    · cases h
    · obtain rfl := Except.ok.inj h
      exact ⟨rfl, rfl, rfl⟩

/-- What holds at a place since the consumers were made holds of the consumer there. -/
theorem At.of_fresh {P : Site → Site → Prop} {j : Nat} {x : ConsumerSettings} {c : Consumer}
    (h : At P s₀ (fresh registry consumers) s cs j) (hx : consumers[j]? = some x)
    (hc : cs[j]? = some c) :
    P ⟨s₀, Consumer.ofSettings x registry []⟩ ⟨s, c⟩ :=
  h _ c (by simp [fresh, hx]) hc

/-- No consumer was given another token. -/
theorem Halted.onlyStarted
    (h : Halted token s₀ (fresh registry consumers) error n s cs)
    (htoken : token < s₀.tokens.nodes.length) {j : Nat} {x : ConsumerSettings} {c : Consumer}
    (hx : consumers[j]? = some x) (hc : cs[j]? = some c) :
    Site.OnlyStarted token ⟨s₀, Consumer.ofSettings x registry []⟩ ⟨s, c⟩ := by
  rcases Nat.lt_trichotomy j n with hj | rfl | hj
  · obtain ⟨_, hstarted, -⟩ := (h.before j hj).of_fresh hx hc
    exact hstarted.onlyStarted htoken
  · obtain ⟨_, hstarted, -⟩ := h.failed.of_fresh hx hc
    exact hstarted.onlyStarted htoken
  · exact ((h.behind j hj).of_fresh hx hc).onlyStarted token

theorem Halted.exists_settings (h : Halted token s₀ (fresh registry consumers) error n s cs)
    {j : Nat} {c : Consumer} (hc : cs[j]? = some c) : ∃ x, consumers[j]? = some x := by
  have hlength : cs.length = consumers.length := h.length.trans (List.length_map _)
  have hj : j < consumers.length := hlength ▸ (List.getElem?_eq_some_iff.1 hc).1
  exact ⟨_, List.getElem?_eq_getElem hj⟩

theorem Halted.unstarted (h : Halted token s₀ (fresh registry consumers) error n s b.consumers)
    (htoken : token < s₀.tokens.nodes.length) : Unstarted consumers token error n s b where
  settings := by
    refine List.ext_getElem? fun j => ?_
    rw [List.getElem?_map]
    cases hc : b.consumers[j]? with
    | none =>
      have hlength : b.consumers.length = consumers.length := h.length.trans (List.length_map _)
      have hj := List.getElem?_eq_none_iff.1 hc
      exact (List.getElem?_eq_none (hlength ▸ hj)).symm
    | some c =>
      obtain ⟨x, hx⟩ := h.exists_settings hc
      rw [hx]
      exact congrArg some (h.onlyStarted htoken hx hc).settings
  before j hj c hc := by
    obtain ⟨x, hx⟩ := h.exists_settings hc
    exact ((h.before j hj).of_fresh hx hc).leftSince
  failed c hc := by
    obtain ⟨x, hx⟩ := h.exists_settings hc
    exact (h.failed.of_fresh hx hc).leftSince
  behind j hj c hc := by
    obtain ⟨x, hx⟩ := h.exists_settings hc
    exact ((h.behind j hj).of_fresh hx hc).untouched (Consumer.untouched_ofSettings x registry [])
  sentAway hcancelled c hc := by
    obtain ⟨j, hj⟩ := List.getElem?_of_mem hc
    obtain ⟨x, hx⟩ := h.exists_settings hj
    exact (h.onlyStarted htoken hx hj).sentAway hcancelled

end Bus

namespace Application

open Bus (LetGo Unstarted Halted UnderWay fresh)

/-- How connecting a bus fails, and what is left then and in all that follows. The bus would have
had the number of the buses before it. -/
inductive Unconnected (a : Application) (settings : Settings) (registry : Registry)
    (consumers : List ConsumerSettings) (producers : List ProducerSettings) (token : Token) :
    BuildFailure → Application → Prop where
  /-- The broker cannot be reached, and there is nothing new. -/
  | undialed {a' : Application} (hbuses : a'.buses = a.buses) (hchannels : a'.channels = a.channels)
      (hlinks : a'.scene.broker.links = a.scene.broker.links) :
      Unconnected a settings registry consumers producers token
        (.refused Connection.unreachableError) a'
  /-- Some settings cannot be used. Nothing was asked for after the dial and there are no consumers;
  a bus that was not to reconnect has no loop, and gives up its link. -/
  | unbuilt {a' : Application} {connection : Connection} {scene : Scene} {e : BuildFailure}
      (hdialed : Connection.establish settings a.scene = (.ok connection, scene))
      (hrefused : Bus.ofSettings connection registry consumers producers = .error e)
      (hscene : a'.scene = scene) (hchannels : a'.channels = a.channels)
      (hleft : ∀ a'', Reaches a' a'' → ∃ b, a''.buses[a.buses.length]? = some b ∧
        b.consumers = [] ∧ LetGo settings.reconnecting b)
      (hclosed : settings.reconnecting = false →
        ∀ a'', Reaches a' a'' → a''.AtRest → a''.HeldByFirst a.buses.length) :
      Unconnected a settings registry consumers producers token e a'
  /-- The start of a consumer has failed. A bus that was not to reconnect has no loop, and gives up
  its link once the token of the start is cancelled and no job waits for an answer that never
  comes. -/
  | unstarted {a' : Application} {error : BusError} {n : Nat} (hn : n < consumers.length)
      (hleft : ∀ a'', Reaches a' a'' → ∃ b, a''.buses[a.buses.length]? = some b ∧
        Unstarted consumers token error n a''.scene b ∧ LetGo settings.reconnecting b)
      (hclosed : settings.reconnecting = false → ∀ a'' b, Reaches a' a'' →
        a''.buses[a.buses.length]? = some b → a''.AtRest → a''.scene.isCancelled token = true →
        (∀ c ∈ b.consumers, ∀ j ∈ c.crew.processor.jobs, j.isStranded = false) →
        a''.HeldByFirst a.buses.length) :
      Unconnected a settings registry consumers producers token (.refused error) a'

variable {a a' : Application} {settings : Settings} {registry : Registry}
  {consumers : List ConsumerSettings} {producers : List ProducerSettings} {token : Token}

/-- Some settings cannot be used. -/
theorem unconnected_of_refused {connection : Connection} {scene : Scene} {e : BuildFailure}
    (hdialed : Connection.establish settings a.scene = (.ok connection, scene))
    (hloop : settings.reconnecting = false → connection.loop = .absent)
    (hrefused : Bus.ofSettings connection registry consumers producers = .error e) :
    Unconnected a settings registry consumers producers token e
      { a with scene, buses := a.buses ++ [{ bare connection with isHeld := false }] } := by
  set a' : Application :=
    { a with scene, buses := a.buses ++ [{ bare connection with isHeld := false }] } with ha'
  have hleft : ∀ a'', Reaches a' a'' → ∃ b, a''.buses[a.buses.length]? = some b ∧
      b.consumers = [] ∧ LetGo settings.reconnecting b := by
    intro a'' hreach
    refine hreach.bus (P := fun _ b => b.consumers = [] ∧ LetGo settings.reconnecting b)
      (fun s b s' b' hnext ⟨hnone, hletgo⟩ => ?_) (b := { bare connection with isHeld := false })
      ?_ ⟨rfl, rfl, hloop⟩
    · obtain ⟨hmoved, hletgo'⟩ := hletgo.next hnext
      have hconsumers := hmoved.consumers
      rw [hnone] at hconsumers
      exact ⟨List.forall₂_nil_left_iff.1 hconsumers, hletgo'⟩
    · rw [ha', List.getElem?_append_right (Nat.le_refl _), Nat.sub_self]
      rfl
  refine .unbuilt hdialed hrefused rfl rfl hleft fun hreconnecting a'' hreach hrest => ?_
  obtain ⟨b, hb, hnone, hletgo⟩ := hleft a'' hreach
  refine hrest.heldByFirst (hreach.length_buses.trans (by simp [ha'])) hb
    (Bus.holdsNothing_of_gone hletgo.hand (hletgo.loop hreconnecting) fun c hc => ?_)
  rw [hnone] at hc
  cases hc

theorem reaches_callOn (fuel : Nat) {i : Nat} {b : Bus} (hb : a.buses[i]? = some b)
    (begin : Bus → Bus × Nat) :
    Reaches { a with buses := a.buses.set i (begin b).1 } (a.callOn fuel i begin).2 ∧
      (a.callOn fuel i begin).1 =
        ((a.callOn fuel i begin).2.buses[i]?).bind (·.result? (begin b).2) := by
  simp only [callOn, hb]
  exact ⟨reaches_runUntil _ _ _, trivial⟩

/-- The start of a consumer has failed. -/
theorem unconnected_of_failed {connection : Connection} {scene : Scene} {b : Bus}
    {error : BusError} (fuel : Nat) (htoken : token < scene.tokens.nodes.length)
    (hloop : settings.reconnecting = false → connection.loop = .absent)
    (hbuilt : Bus.ofSettings connection registry consumers producers = .ok b)
    (hcall : ({ a with scene, buses := a.buses ++ [b] } : Application).callOn fuel a.buses.length
      (·.start token) = (some (.error error), a')) :
    Unconnected a settings registry consumers producers token (.refused error)
      { a' with buses := a'.buses.modify a.buses.length fun b => { b with isHeld := false } } := by
  obtain ⟨hconnection, hconsumers, hseries⟩ := Bus.of_ofSettings hbuilt
  set a₀ : Application := { a with scene, buses := a.buses ++ [b] } with ha₀
  have hb : a₀.buses[a.buses.length]? = some b := by
    rw [ha₀, List.getElem?_append_right (Nat.le_refl _), Nat.sub_self]
    rfl
  obtain ⟨hreach, hresult⟩ := reaches_callOn fuel hb (·.start token)
  rw [hcall] at hreach hresult
  have hlt : a.buses.length < a₀.buses.length := (List.getElem?_eq_some_iff.1 hb).1
  -- the start goes on up to the result
  have hunderWay := Bus.underWay_start token scene b
  rw [hconsumers, hseries] at hunderWay
  obtain ⟨b₁, hb₁, ⟨calls, hcalls⟩, hloop₁⟩ := hreach.bus
    (P := fun s b => (∃ calls, UnderWay token scene (fresh registry consumers) [] s b calls) ∧
      (settings.reconnecting = false → b.connection.loop = .absent))
    (fun s b s' b' hnext ⟨⟨calls, hcalls⟩, hloop⟩ =>
      ⟨hcalls.next (by simp) hnext, fun hoff => hnext.loop (hloop hoff)⟩)
    (List.getElem?_set_self hlt) ⟨⟨_, hunderWay⟩, fun hoff => hconnection ▸ hloop hoff⟩
  rw [hb₁, show (b.start token).2 = b.series.length from rfl, hseries] at hresult
  obtain ⟨hover, n, hn, hhalted⟩ := hcalls.of_error hresult.symm
  set a₂ : Application :=
    { a' with buses := a'.buses.modify a.buses.length fun b => { b with isHeld := false } } with ha₂
  have hb₂ : a₂.buses[a.buses.length]? = some { b₁ with isHeld := false } := by
    rw [ha₂, List.getElem?_modify_eq, hb₁]
    rfl
  have hlength : a₂.buses.length = a.buses.length + 1 := by
    rw [ha₂, List.length_modify, hreach.length_buses]
    simp [ha₀]
  have hhand : ({ b₁ with isHeld := false } : Bus).isInHand = false := by
    simp [Bus.isInHand, hcalls.series, hover]
  -- from then on nobody is called
  have hafter {a'' : Application} (hreach : Reaches a₂ a'') :
      ∃ b, a''.buses[a.buses.length]? = some b ∧
        Halted token scene (fresh registry consumers) error n a''.scene b.consumers ∧
        LetGo settings.reconnecting b := by
    refine hreach.bus (P := fun s b =>
      Halted token scene (fresh registry consumers) error n s b.consumers ∧
        LetGo settings.reconnecting b) (fun s b s' b' hnext ⟨hhalted, hletgo⟩ => ?_) hb₂
      ⟨hhalted, hhand, hloop₁⟩
    obtain ⟨hmoved, hletgo'⟩ := hletgo.next hnext
    exact ⟨hhalted.moved hmoved.consumers, hletgo'⟩
  refine .unstarted (n := n) (hn.trans_eq (List.length_map _)) (fun a'' hreach => ?_)
    fun hoff a'' b hreach hb hrest hcancelled hstranded => ?_
  · obtain ⟨b, hb, hhalted, hletgo⟩ := hafter hreach
    exact ⟨b, hb, hhalted.unstarted htoken, hletgo⟩
  · obtain ⟨b', hb', hhalted, hletgo⟩ := hafter hreach
    obtain rfl := Option.some.inj (hb'.symm.trans hb)
    refine hrest.heldByFirst (hreach.length_buses.trans hlength) hb
      (Bus.holdsNothing_of_gone hletgo.hand (hletgo.loop hoff) fun c hc => ?_)
    obtain ⟨j, hj⟩ := List.getElem?_of_mem hc
    obtain ⟨x, hx⟩ := hhalted.exists_settings hj
    have honly := hhalted.onlyStarted htoken hx hj
    exact hrest.gone (List.mem_of_getElem? hb) (hletgo.loop hoff) hc honly.staged
      (honly.sentAway hcancelled) (hstranded c hc)

/-- Whatever keeps a bus from being connected, what is left of it is as `Unconnected` says. -/
theorem connect_law (fuel : Nat) (a : Application) (settings : Settings) (registry : Registry)
    (consumers : List ConsumerSettings) (producers : List ProducerSettings) (token : Token)
    {e : BuildFailure} (htoken : token < a.scene.tokens.nodes.length)
    (hfailed : (a.connect fuel settings registry consumers producers token).1 = some (.error e)) :
    Unconnected a settings registry consumers producers token e
      (a.connect fuel settings registry consumers producers token).2 := by
  unfold connect at hfailed ⊢
  rcases Connection.establish_cases settings a.scene with
    ⟨scene, hdialed, hlinks⟩ | ⟨connection, scene, hdialed, honward, hloop⟩
  · rw [hdialed] at hfailed ⊢
    obtain rfl := Except.error.inj (Option.some.inj hfailed)
    exact .undialed rfl rfl hlinks
  · rw [hdialed] at hfailed ⊢
    dsimp only at hfailed ⊢
    cases hbuilt : Bus.ofSettings connection registry consumers producers with
    | error refused =>
      rw [hbuilt] at hfailed
      obtain rfl := Except.error.inj (Option.some.inj hfailed)
      exact unconnected_of_refused hdialed hloop hbuilt
    | ok b =>
      rw [hbuilt] at hfailed
      dsimp only at hfailed ⊢
      split at hfailed
      · next hauto =>
        rw [if_pos hauto]
        generalize hcall : Application.callOn fuel _ _ _ = called at hfailed ⊢
        obtain ⟨result, a'⟩ := called
        dsimp only at hfailed ⊢
        split at hfailed
        · obtain rfl := Except.error.inj (Option.some.inj hfailed)
          exact unconnected_of_failed fuel
            (Nat.lt_of_lt_of_le htoken honward.later.tokens) hloop hbuilt hcall
        · cases hfailed
        · cases hfailed
      · cases hfailed

/-- A scene with a token, and with a broker that refuses one queue. -/
def refusingQueue : Scene :=
  { ((default : Scene).makeToken none).1 with
    broker :=
      { rules :=
          [{ method := "queue.declare", subject := some "price_changed_queue"
             refusal := .closeChannel 406 }] } }

/-- The law for two consumers, the second of which has that queue. -/
theorem connect_law_refusingQueue :
    let a : Application := { scene := refusingQueue }
    let consumers := [ConsumerSettings.ofMessageType "orderCreated", .ofMessageType "priceChanged"]
    let e : BuildFailure := .refused (.queueDeclaration "price_changed_queue")
    let r := a.connect 40 { reconnecting := false } ⟨Catalogue.usual⟩ consumers [] 0
    0 < a.scene.tokens.nodes.length ∧ r.1 = some (.error e) ∧
      Unconnected a { reconnecting := false } ⟨Catalogue.usual⟩ consumers [] 0 e r.2 := by
  intro a consumers e r
  have htoken : 0 < a.scene.tokens.nodes.length := by decide +kernel
  have hfailed : r.1 = some (.error e) := by decide +kernel
  exact ⟨htoken, hfailed, connect_law 40 a { reconnecting := false } ⟨Catalogue.usual⟩ consumers []
    0 htoken hfailed⟩

/-- What was started is not stopped, and the link is not closed: the first consumer is subscribed
still when nothing goes on any more. -/
theorem connect_not_undone :
    let r := ({ scene := refusingQueue } : Application).connect 40 { reconnecting := false }
      ⟨Catalogue.usual⟩ [.ofMessageType "orderCreated", .ofMessageType "priceChanged"] [] 0
    let a := r.2.settle 40
    r.1 = some (.error (.refused (.queueDeclaration "price_changed_queue"))) ∧
      a.step?.isNone = true ∧ a.wakeTime? = none ∧ a.scene.broker.linkAlive 0 = true ∧
      a.scene.broker.subscriptions.map a.scene.broker.subscribed = [true] ∧
      a.buses.map (fun b => b.consumers.map fun c => (c.slot.isSome, c.status)) =
        [[(true, .running), (false, .idle)]] := by
  decide +kernel

end Application

end MessageBus
