import MessageBus.Proofs.Consumer.Stop
import MessageBus.Proofs.Scene.Later

/-!
# What consumers do

`stepped_of_step` says once what a step of a consumer can be. Every step leads to a later scene
(`Stepped.later`).
-/

set_option autoImplicit false

namespace MessageBus

/-! ## The scene after a step of the crew -/

theorem Processor.Onward.leads {p : Processor} {s s' : Scene} {j j' : Job}
    (h : p.Onward s j s' j') : s.Leads s' := by
  cases h with
  | admitted _ => exact Scene.leads_refl s
  | @resumed since work rest _ _ hwork =>
    have hleads := Scene.leads_advance (j.situation p.observers) rest s
    rwa [hwork] at hleads

theorem Crew.leads_dismiss (s : Scene) (c : Crew) (k : Nat) : s.Leads (c.dismiss s k) := by
  unfold dismiss
  split
  · exact Scene.leads_refl s
  · exact .cancel s _

theorem Crew.Stepped.leads {s s' : Scene} {c c' : Crew} {l : Crew.Label}
    (h : Crew.Stepped s c l s' c') : s.Leads s' := by
  cases h with
  | grant hrun _ =>
    obtain ⟨_, _, _, hran⟩ := Processor.ran_of_grant? hrun
    exact hran.onward.leads
  | resume hrun _ =>
    obtain ⟨_, _, hran⟩ := Processor.ran_of_resume? hrun
    exact hran.onward.leads
  | dismiss => exact c.leads_dismiss s _
  | news | arrive | endStream | leave | finish | pullFault | pull | rest =>
    exact Scene.leads_refl s

/-! ## The end of a call -/

namespace Purpose

/-- The stage a consumer is in once a call with this purpose is over that was not to stop it. -/
def stageAfter (p : Purpose) (result : Outcome) (status : ConsumerStatus) : ConsumerStatus :=
  match p, result, status with
  | .start _, .ok _, .starting => .running
  | .start _, .error _, .starting => .idle
  | .rebuild _, .ok _, .resubscribing => .running
  | _, _, status => status

/-- The watchers once the call is over: one that waits for it listens again. -/
def release (p : Purpose) (watchers : List Watcher) : List Watcher :=
  match p with
  | .rebuild watcher => watchers.modify watcher fun w => { w with phase := .listening }
  | _ => watchers

end Purpose

namespace Consumer

/-- The consumer once a call is over that was to subscribe. -/
def concluded (c : Consumer) (call : Call) (result : Outcome) : Consumer :=
  { c with
    active := none
    returned := c.returned ++ [(call.id, result)]
    status := call.purpose.stageAfter result c.status
    watchers := call.purpose.release c.watchers }

/-- The consumer once a stop is over. -/
def retiredBy (c : Consumer) (call : Call) (result : Outcome) : Consumer :=
  { c with watchToken := none, status := .stopped }.answerTo call result

/-- At most one call holds the lock. -/
theorem holder_eq {c : Consumer} {call call' : Call} {phase phase' : CallPhase}
    (h : c.active = some (call, phase)) (h' : c.active = some (call', phase')) :
    call = call' ∧ phase = phase' :=
  Prod.mk.inj (Option.some.inj (h.symm.trans h'))

/-- The call that holds the lock and those that wait for it, in order. -/
def inLine (c : Consumer) : List Call := (c.active.map Prod.fst).toList ++ c.waiting

theorem inLine_of_active {c : Consumer} {call : Call} {phase : CallPhase}
    (h : c.active = some (call, phase)) : c.inLine = call :: c.waiting := by
  unfold inLine
  rw [h]
  rfl

theorem inLine_of_none {c : Consumer} (h : c.active = none) : c.inLine = c.waiting := by
  unfold inLine
  rw [h]
  rfl

theorem transition_eq (c : Consumer) (before after : ConsumerStatus) :
    c.transition before after =
      { c with status := if c.status = before then after else c.status } := by
  unfold transition
  split <;> rfl

theorem subscribed_eq (s : Scene) (c : Consumer) (call : Call) (result : Outcome) :
    (c.subscribed s call result).2 = c.concluded call result := by
  obtain ⟨id, purpose⟩ := call
  cases purpose <;> cases result <;> cases hstatus : c.status <;>
    simp [subscribed, concluded, transition_eq, answerTo, listenAgain, Purpose.stageAfter,
      Purpose.release, hstatus]

theorem leads_subscribed (s : Scene) (c : Consumer) (call : Call) (result : Outcome) :
    s.Leads (c.subscribed s call result).1 := by
  obtain ⟨logs, hs⟩ := subscribed_scene s c call result
  rw [hs]
  exact .same rfl rfl

theorem leads_proceed (s : Scene) (c : Consumer) (call : Call) (result : Outcome) :
    s.Leads (c.proceed s call result).1 := by
  unfold proceed
  split
  · exact Scene.leads_refl s
  · cases result <;> exact .same rfl rfl

/-! ## The scene after a step -/

theorem fst_snd_of_some {α β : Type} {p : α × β} {a : α} {b : β} (h : some p = some (a, b)) :
    p.1 = a ∧ p.2 = b := by
  rw [Option.some.inj h]
  exact ⟨rfl, rfl⟩

theorem fst_of_some {α β : Type} {p : α × β} {a : α} {b : β} (h : some p = some (a, b)) :
    a = p.1 := (fst_snd_of_some h).1.symm

theorem leads_takeSlot (s : Scene) (c : Consumer) (call : Call) (connected : Bool) :
    s.Leads (c.takeSlot s call connected).1 := by
  unfold takeSlot
  split
  · exact leads_subscribed s c call _
  · split
    · exact leads_proceed s c call _
    · cases connected with
      | true => exact Scene.leads_refl s
      | false => exact c.crew.leads_dismiss s _

theorem leads_install (s : Scene) (c : Consumer) (call : Call) (channel : Amqp.ChannelId)
    (tag : String) :
    (s.makeToken (some (c.workToken call))).1.Leads (c.install s call channel tag).1 := by
  unfold install
  dsimp only
  refine Scene.Leads.trans ?_ (leads_subscribed _ _ _ _)
  exact .same rfl rfl

theorem leads_findWatcher (s : Scene) (c : Consumer) (parent : Token) :
    s.Leads (findWatcher s c parent).1 := by
  unfold findWatcher
  dsimp only
  split
  · split
    · exact .make s _
    · exact Scene.leads_refl s
  · exact .make s _

theorem leads_replied {s s' : Scene} {c c' : Consumer} {call : Call} {phase : CallPhase} {r : Reply}
    (h : c.replied s call phase r = some (s', c')) : s.Leads s' := by
  unfold replied at h
  split at h
  case h_1 old =>
    rw [fst_of_some h]
    exact c.crew.leads_dismiss s _
  case h_2 old =>
    rw [fst_of_some h]
    refine Scene.Leads.trans ?_ (c.crew.leads_dismiss _ old.pool)
    exact .same rfl rfl
  case h_3 =>
    rw [fst_of_some h]
    exact leads_proceed _ _ _ _
  case h_4 =>
    rw [fst_of_some h]
    refine Scene.Leads.trans ?_ (leads_proceed _ _ _ _)
    exact .same rfl rfl
  case h_5 =>
    rw [fst_of_some h]
    exact .same rfl rfl
  case h_6 | h_8 =>
    rw [fst_of_some h]
    exact leads_subscribed _ _ _ _
  case h_7 =>
    split at h
    · rw [fst_of_some h]
      exact Scene.leads_refl s
    · rw [fst_of_some h]
      exact .trans (.make s _) (leads_install s c call _ _)
  case h_9 => cases h

theorem leads_hear {s s' : Scene} {c c' : Consumer} {watcher : Nat} {connected : Bool}
    (h : c.hear s watcher connected = some (s', c')) : s.Leads s' := by
  obtain ⟨⟨logs, rfl⟩, -⟩ := heard_of_hear h
  exact .same rfl rfl

/-- The clock stands still in a step, and no token changes its place. -/
theorem leads_step {s s' : Scene} {c c' : Consumer} {l : Label}
    (h : c.step s l = some (s', c')) : s.Leads s' := by
  cases l with
  | start | stop | reconnected | channelClosed =>
    rw [fst_of_some h]
    exact Scene.leads_refl s
  | hear watcher connected => exact leads_hear h
  | work label =>
    obtain ⟨⟨s₁, crew⟩, hcrew, hc⟩ := Option.map_eq_some_iff.1 h
    obtain ⟨rfl, rfl⟩ := Prod.mk.inj hc
    exact (Crew.stepped_of_step hcrew).leads
  | watch =>
    simp only [step] at h
    split at h
    · cases h
    · rw [fst_of_some h]
      exact leads_findWatcher _ _ _
  | enter connected =>
    simp only [step] at h
    split at h
    · rw [fst_of_some h]
      exact leads_takeSlot _ _ _ _
    · cases h
  | reply r =>
    simp only [step] at h
    split at h
    · exact leads_replied h
    · cases h
  | drained channelOpen =>
    simp only [step] at h
    split at h
    · split at h
      · split at h
        · rw [fst_of_some h]
          exact Scene.leads_refl s
        · rw [fst_of_some h]
          exact leads_proceed _ _ _ _
      · cases h
    · cases h
  | retire =>
    simp only [step] at h
    split at h
    · rw [fst_of_some h]
      cases c.watchToken with
      | none => exact .same rfl rfl
      | some token => exact .trans (.cancel s token) (.same rfl rfl)
    · cases h

/-! ## The steps -/

/-- What a step can be. -/
inductive Stepped (s : Scene) (c : Consumer) : Label → Scene → Consumer → Prop where
  | start {token : Token} :
      Stepped s c (.start token) s { c with
        status := .starting
        calls := c.calls + 1
        entering := c.entering ++ [(c.calls, token)] }
  | stop :
      Stepped s c .stop s { c with
        status := .stopping
        calls := c.calls + 1
        waiting := c.waiting ++ [⟨c.calls, .stop⟩] }
  /-- A start finds the watcher that is there. -/
  | found {id : Nat} {parent token : Token} {entering : List (Nat × Token)}
      (hentering : c.entering = (id, parent) :: entering) (hfound : c.watchToken = some token)
      (hlive : s.isCancelled token = false) :
      Stepped s c .watch s { c with entering, waiting := c.waiting ++ [⟨id, .start token⟩] }
  /-- A start makes a watcher, since there is none, or its token is cancelled. -/
  | hired {id : Nat} {parent : Token} {entering : List (Nat × Token)}
      (hentering : c.entering = (id, parent) :: entering)
      (hnone : ∀ token, c.watchToken = some token → s.isCancelled token = true) :
      Stepped s c .watch (s.makeToken (some parent)).1 { c with
        entering
        waiting := c.waiting ++ [⟨id, .start (s.makeToken (some parent)).2⟩]
        watchToken := some (s.makeToken (some parent)).2
        watchers := c.watchers ++ [{ token := (s.makeToken (some parent)).2 }] }
  /-- A call that was to subscribe finds that a stop has begun. -/
  | declined {call : Call} {waiting : List Call} {connected : Bool} {s' : Scene}
      (hactive : c.active = none) (hwaiting : c.waiting = call :: waiting)
      (hpurpose : call.purpose ≠ .stop) (hstopping : c.status.isStopping = true)
      (hlater : s.Later s') :
      Stepped s c (.enter connected) s' ({ c with waiting }.concluded call (.ok ()))
  /-- A call has nothing to release. -/
  | vacant {call : Call} {waiting : List Call} {connected : Bool} {s' : Scene}
      (hactive : c.active = none) (hwaiting : c.waiting = call :: waiting)
      (hadmitted : call.purpose ≠ .stop → c.status.isStopping = false) (hslot : c.slot = none)
      (hlater : s.Later s') :
      Stepped s c (.enter connected) s'
        { c with waiting, active := some (call, nextPhase call (.ok ())) }
  /-- A call begins a release, with the connection up. -/
  | cancels {call : Call} {waiting : List Call} {old : Subscription}
      (hactive : c.active = none) (hwaiting : c.waiting = call :: waiting)
      (hadmitted : call.purpose ≠ .stop → c.status.isStopping = false)
      (hslot : c.slot = some old) :
      Stepped s c (.enter true) s
        { c with waiting, slot := none, active := some (call, .cancelling old) }
  /-- A call begins a release, with the connection down. -/
  | drains {call : Call} {waiting : List Call} {old : Subscription}
      (hactive : c.active = none) (hwaiting : c.waiting = call :: waiting)
      (hadmitted : call.purpose ≠ .stop → c.status.isStopping = false)
      (hslot : c.slot = some old) :
      Stepped s c (.enter false) (c.crew.dismiss s old.pool)
        { c with waiting, slot := none, active := some (call, .draining old false) }
  /-- The broker has answered to the cancelling. -/
  | cancelled {call : Call} {old : Subscription} {r : Reply} {s' : Scene}
      (hactive : c.active = some (call, .cancelling old)) (hr : r = .granted ∨ r = .refused)
      (hlater : s.Later s') :
      Stepped s c (.reply r) s' { c with active := some (call, .draining old true) }
  /-- The workers are gone, and the channel is to be closed. -/
  | closes {call : Call} {old : Subscription}
      (hactive : c.active = some (call, .draining old true))
      (hdrained : c.crew.isDrained old.pool = true) :
      Stepped s c (.drained true) s { c with active := some (call, .closing old) }
  /-- The workers are gone, and there is no channel to close. -/
  | spared {call : Call} {old : Subscription} {connected channelOpen : Bool} {s' : Scene}
      (hactive : c.active = some (call, .draining old connected))
      (hdrained : c.crew.isDrained old.pool = true) (hdead : (connected && channelOpen) = false)
      (hlater : s.Later s') :
      Stepped s c (.drained channelOpen) s'
        { c with active := some (call, nextPhase call (.ok ())) }
  | closed {call : Call} {old : Subscription} {s' : Scene}
      (hactive : c.active = some (call, .closing old)) (hlater : s.Later s') :
      Stepped s c (.reply .granted) s' { c with active := some (call, nextPhase call (.ok ())) }
  | unclosed {call : Call} {old : Subscription} {s' : Scene}
      (hactive : c.active = some (call, .closing old)) (hlater : s.Later s') :
      Stepped s c (.reply .refused) s'
        { c with active := some (call, nextPhase call (.error unclosedError)) }
  | opened {call : Call} {channel : Amqp.ChannelId} {s' : Scene}
      (hactive : c.active = some (call, .opening)) (tag : String) (hlater : s.Later s') :
      Stepped s c (.reply (.opened channel)) s'
        { c with active := some (call, .building .prefetch channel tag) }
  | unopened {call : Call} {e : BusError} {s' : Scene}
      (hactive : c.active = some (call, .opening)) (hlater : s.Later s') :
      Stepped s c (.reply (.noChannel e)) s' (c.concluded call (.error e))
  | built {call : Call} {step next : SetupStep} {channel : Amqp.ChannelId} {tag : String}
      (hactive : c.active = some (call, .building step channel tag))
      (hnext : step.next? = some next) :
      Stepped s c (.reply .granted) s { c with active := some (call, .building next channel tag) }
  | unbuilt {call : Call} {step : SetupStep} {channel : Amqp.ChannelId} {tag : String} {s' : Scene}
      (hactive : c.active = some (call, .building step channel tag)) (hlater : s.Later s') :
      Stepped s c (.reply .refused) s' (c.concluded call (.error (step.error c.names)))
  /-- There is a new subscription, with workers of its own. -/
  | installed {call : Call} {channel : Amqp.ChannelId} {tag : String} {s' : Scene} {pool : Pool}
      (hactive : c.active = some (call, .building .consume channel tag))
      (hview : ∃ token, pool.view =
        ⟨token, [], true, List.replicate c.settings.concurrencyLimit.toNat .idle⟩)
      (hlater : s.Later s') :
      Stepped s c (.reply .granted) s' ((c.filled pool channel tag).concluded call (.ok ()))
  | retired {call : Call} {result : Outcome} {s' : Scene}
      (hactive : c.active = some (call, .retiring result))
      (htoken : ∀ token, c.watchToken = some token → token < s.tokens.nodes.length →
        s'.isCancelled token = true)
      (hlater : s.Later s') :
      Stepped s c .retire s' (c.retiredBy call result)
  /-- A watcher goes. -/
  | gone {watcher : Nat} {connected : Bool} {w : Watcher} {s' : Scene}
      (hw : c.watchers[watcher]? = some w) (hphase : w.phase = .listening)
      (hcancelled : s.isCancelled w.token = true) (hlater : s.Later s') :
      Stepped s c (.hear watcher connected) s'
        { c with watchers := c.watchers.set watcher { w with phase := .gone } }
  /-- A watcher reads something and begins a rebuild. -/
  | rebuilds {watcher : Nat} {connected : Bool} {w : Watcher} {reconnects closures : Backlog}
      {s' : Scene} (hw : c.watchers[watcher]? = some w) (hphase : w.phase = .listening)
      (hlive : s.isCancelled w.token = false) (hadmits : c.status.admitsRebuild = true)
      (hlater : s.Later s') :
      Stepped s c (.hear watcher connected) s' { c with
        status := .resubscribing
        rebuilds := c.rebuilds + 1
        calls := c.calls + 1
        waiting := c.waiting ++ [⟨c.calls, .rebuild watcher⟩]
        watchers := c.watchers.set watcher
          { token := w.token, reconnects, closures, phase := .rebuilding } }
  /-- A watcher reads something and nothing comes of it: the consumer admits no rebuild, or what was
  read was no reconnect. -/
  | passes {watcher : Nat} {connected : Bool} {w : Watcher} {reconnects closures : Backlog}
      {s' : Scene} (hw : c.watchers[watcher]? = some w) (hphase : w.phase = .listening)
      (hpassed : c.status.admitsRebuild = false ∨
        (w.reconnects.take? = none ∧ reconnects = w.reconnects))
      (hlater : s.Later s') :
      Stepped s c (.hear watcher connected) s' { c with
        watchers := c.watchers.set watcher { token := w.token, reconnects, closures } }
  | reconnected :
      Stepped s c .reconnected s { c with
        watchers := c.watchers.map fun w => { w with reconnects := w.reconnects.push } }
  | channelClosed {crew : Crew} (hviews : crew.views = c.crew.views)
      (hproc : crew.processor = c.crew.processor) :
      Stepped s c .channelClosed s { c with
        watchers := c.watchers.map fun w => { w with closures := w.closures.push }
        crew }
  | work {label : Crew.Label} {s' : Scene} {crew : Crew}
      (hwork : Crew.Stepped s c.crew label s' crew) :
      Stepped s c (.work label) s' { c with crew }

variable {s s' : Scene} {c c' : Consumer} {call : Call}

theorem stepped_of_takeSlot {waiting : List Call} {connected : Bool} (hactive : c.active = none)
    (hwaiting : c.waiting = call :: waiting) :
    Stepped s c (.enter connected) ({ c with waiting }.takeSlot s call connected).1
      ({ c with waiting }.takeSlot s call connected).2 := by
  unfold takeSlot
  split
  · next h =>
    rw [subscribed_eq]
    exact .declined hactive hwaiting h.1 h.2 (leads_subscribed _ _ _ _).later
  · next h =>
    have hadmitted : call.purpose ≠ .stop → c.status.isStopping = false := by
      intro hpurpose
      exact Bool.eq_false_iff.2 fun hstopping => h ⟨hpurpose, hstopping⟩
    split
    · next hslot =>
      rw [proceed_eq]
      exact .vacant hactive hwaiting hadmitted hslot (leads_proceed _ _ _ _).later
    · next old hslot =>
      cases connected with
      | true => exact .cancels hactive hwaiting hadmitted hslot
      | false => exact .drains hactive hwaiting hadmitted hslot

theorem stepped_of_replied {phase : CallPhase} {r : Reply} (hactive : c.active = some (call, phase))
    (h : c.replied s call phase r = some (s', c')) : Stepped s c (.reply r) s' c' := by
  have hlater := (leads_replied h).later
  unfold replied at h
  split at h
  case h_1 old =>
    obtain ⟨rfl, rfl⟩ := fst_snd_of_some h
    exact .cancelled hactive (.inl rfl) hlater
  case h_2 old =>
    obtain ⟨rfl, rfl⟩ := fst_snd_of_some h
    exact .cancelled hactive (.inr rfl) hlater
  case h_3 old =>
    obtain ⟨rfl, rfl⟩ := fst_snd_of_some h
    rw [proceed_eq]
    exact .closed hactive hlater
  case h_4 old =>
    obtain ⟨rfl, rfl⟩ := fst_snd_of_some h
    rw [proceed_eq]
    exact .unclosed hactive hlater
  case h_5 channel =>
    obtain ⟨rfl, rfl⟩ := fst_snd_of_some h
    exact .opened hactive _ hlater
  case h_6 e =>
    obtain ⟨rfl, rfl⟩ := fst_snd_of_some h
    rw [subscribed_eq]
    exact .unopened hactive hlater
  case h_7 step channel tag =>
    split at h
    · next next hnext =>
      obtain ⟨rfl, rfl⟩ := fst_snd_of_some h
      exact .built hactive hnext
    · next hnext =>
      -- the last request was granted
      obtain rfl : step = .consume := by cases step <;> first | rfl | cases hnext
      obtain ⟨rfl, rfl⟩ := fst_snd_of_some h
      unfold install
      dsimp only
      rw [subscribed_eq]
      exact .installed hactive ⟨_, Pool.view_spawn s _ _⟩ hlater
  case h_8 step channel tag =>
    obtain ⟨rfl, rfl⟩ := fst_snd_of_some h
    rw [subscribed_eq]
    exact .unbuilt hactive hlater
  case h_9 => cases h

theorem stepped_of_findWatcher {id : Nat} {parent : Token} {entering : List (Nat × Token)}
    (hentering : c.entering = (id, parent) :: entering) :
    let r := findWatcher s { c with entering } parent
    Stepped s c .watch r.1
      { r.2.1 with waiting := r.2.1.waiting ++ [⟨id, .start r.2.2⟩] } := by
  unfold findWatcher
  dsimp only
  split
  · next token htoken =>
    split
    · next hcancelled =>
      refine .hired hentering fun token' htoken' => ?_
      obtain rfl := Option.some.inj (htoken.symm.trans htoken')
      exact hcancelled
    · next hlive => exact .found hentering htoken (by simpa using hlive)
  · next hnone =>
    refine .hired hentering fun token' htoken' => ?_
    rw [hnone] at htoken'
    cases htoken'

/-- What a watcher has read leads to a rebuild, or nothing comes of it. -/
theorem stepped_of_beginRebuild {s₀ : Scene} {watcher : Nat} {connected : Bool} {w : Watcher}
    {reconnects closures : Backlog} (hw : c.watchers[watcher]? = some w)
    (hphase : w.phase = .listening) (hlive : s.isCancelled w.token = false) (hlater : s.Later s₀) :
    Stepped s c (.hear watcher connected)
      (c.beginRebuild s₀ watcher { w with reconnects, closures }).1
      (c.beginRebuild s₀ watcher { w with reconnects, closures }).2 := by
  unfold beginRebuild
  split
  · next hadmits =>
    exact .rebuilds (w := w) hw hphase hlive hadmits (hlater.trans (Scene.later_of_same rfl rfl))
  · next hrefused =>
    rw [hphase]
    exact .passes hw hphase (.inl (by simpa using hrefused)) hlater

theorem stepped_of_hear {watcher : Nat} {connected : Bool}
    (h : c.hear s watcher connected = some (s', c')) :
    Stepped s c (.hear watcher connected) s' c' := by
  have hlater := (leads_hear h).later
  obtain ⟨w, hw, h⟩ := Option.bind_eq_some_iff.1 h
  split at h
  · cases h
  next hphase =>
  have hphase : w.phase = .listening := by simpa using hphase
  split at h
  · next hcancelled =>
    obtain ⟨rfl, rfl⟩ := fst_snd_of_some h
    exact .gone hw hphase hcancelled hlater
  next hlive =>
  have hlive : s.isCancelled w.token = false := by simpa using hlive
  split at h
  · -- a reconnect
    next signal reconnects hread =>
    obtain ⟨rfl, rfl⟩ := fst_snd_of_some h
    unfold hearReconnect
    dsimp only
    refine stepped_of_beginRebuild hw hphase hlive ?_
    split <;> exact Scene.later_of_same rfl rfl
  · next hread =>
    split at h
    · cases h
    · next reason closures hclosure =>
      split at h
      · obtain ⟨rfl, rfl⟩ := fst_snd_of_some h
        exact stepped_of_beginRebuild hw hphase hlive (Scene.later_of_same rfl rfl)
      · obtain ⟨rfl, rfl⟩ := fst_snd_of_some h
        rw [hphase]
        exact .passes hw hphase (.inr ⟨hread, rfl⟩) hlater

theorem stepped_of_step {l : Label} (h : c.step s l = some (s', c')) : Stepped s c l s' c' := by
  have hlater := (leads_step h).later
  cases l with
  | start token =>
    obtain ⟨rfl, rfl⟩ := fst_snd_of_some h
    exact .start
  | stop =>
    obtain ⟨rfl, rfl⟩ := fst_snd_of_some h
    exact .stop
  | reconnected =>
    obtain ⟨rfl, rfl⟩ := fst_snd_of_some h
    exact .reconnected
  | channelClosed =>
    obtain ⟨rfl, rfl⟩ := fst_snd_of_some h
    exact .channelClosed (by simp [Crew.views, Pool.view_channelClosed]) rfl
  | hear watcher connected => exact stepped_of_hear h
  | work label =>
    obtain ⟨⟨s₁, crew⟩, hcrew, hc⟩ := Option.map_eq_some_iff.1 h
    obtain ⟨rfl, rfl⟩ := Prod.mk.inj hc
    exact .work (Crew.stepped_of_step hcrew)
  | watch =>
    simp only [step] at h
    split at h
    · cases h
    · next id parent entering hentering =>
      obtain ⟨rfl, rfl⟩ := fst_snd_of_some h
      exact stepped_of_findWatcher hentering
  | enter connected =>
    simp only [step] at h
    split at h
    · next call waiting hactive hwaiting =>
      obtain ⟨rfl, rfl⟩ := fst_snd_of_some h
      have hstepped : Stepped s c (.enter connected) _ _ := stepped_of_takeSlot hactive hwaiting
      simpa only [hactive] using hstepped
    · cases h
  | reply r =>
    simp only [step] at h
    split at h
    · next call phase hactive => exact stepped_of_replied hactive h
    · cases h
  | drained channelOpen =>
    simp only [step] at h
    split at h
    · next call old connected hactive =>
      split at h
      · next hdrained =>
        split at h
        · next hopen =>
          obtain ⟨rfl, rfl⟩ := fst_snd_of_some h
          obtain ⟨rfl, rfl⟩ : connected = true ∧ channelOpen = true := by simpa using hopen
          exact .closes hactive hdrained
        · next hdead =>
          obtain ⟨rfl, rfl⟩ := fst_snd_of_some h
          rw [proceed_eq]
          exact .spared hactive hdrained (by simpa using hdead) hlater
      · cases h
    · cases h
  | retire =>
    simp only [step] at h
    split at h
    · next call result hactive =>
      obtain ⟨rfl, rfl⟩ := fst_snd_of_some h
      refine .retired hactive (fun token htoken hlt => ?_) hlater
      rw [htoken]
      exact Tokens.isCancelled_cancelAt hlt s.now
    · cases h

/-- How a call ends that holds the lock. -/
inductive Concluded (c : Consumer) (call : Call) : CallPhase → Label → Consumer → Prop where
  | unopened {e : BusError} :
      Concluded c call .opening (.reply (.noChannel e)) (c.concluded call (.error e))
  | unbuilt {step : SetupStep} {channel : Amqp.ChannelId} {tag : String} :
      Concluded c call (.building step channel tag) (.reply .refused)
        (c.concluded call (.error (step.error c.names)))
  | installed {channel : Amqp.ChannelId} {tag : String} {pool : Pool}
      (hview : ∃ token, pool.view =
        ⟨token, [], true, List.replicate c.settings.concurrencyLimit.toNat .idle⟩) :
      Concluded c call (.building .consume channel tag) (.reply .granted)
        ((c.filled pool channel tag).concluded call (.ok ()))
  | retired {result : Outcome} :
      Concluded c call (.retiring result) .retire (c.retiredBy call result)

theorem Stepped.concluded {l : Label} {phase : CallPhase} (h : Stepped s c l s' c')
    (hactive : c.active = some (call, phase)) (hend : c'.active = none) :
    Concluded c call phase l c' := by
  have hsame {c'' : Consumer} (hc : c''.active = c.active) (hnone : c''.active = none) : False := by
    rw [hc, hactive] at hnone
    cases hnone
  cases h with
  | start | stop | found | hired | gone | rebuilds | passes | reconnected | channelClosed | work =>
    exact (hsame rfl hend).elim
  | declined hnone | vacant hnone | cancels hnone | drains hnone =>
    rw [hactive] at hnone
    cases hnone
  | cancelled | closes | spared | closed | unclosed | opened | built => cases hend
  | unopened hwas =>
    obtain ⟨rfl, rfl⟩ := holder_eq hwas hactive
    exact .unopened
  | unbuilt hwas =>
    obtain ⟨rfl, rfl⟩ := holder_eq hwas hactive
    exact .unbuilt
  | installed hwas hview =>
    obtain ⟨rfl, rfl⟩ := holder_eq hwas hactive
    exact .installed hview
  | retired hwas =>
    obtain ⟨rfl, rfl⟩ := holder_eq hwas hactive
    exact .retired

theorem Stepped.later {l : Label} (h : Stepped s c l s' c') : s.Later s' := by
  cases h with
  | start | stop | found | cancels | closes | built | reconnected | channelClosed =>
    exact Scene.later_refl s
  | hired => exact Scene.later_makeToken s _
  | drains => exact (c.crew.leads_dismiss s _).later
  | work hwork => exact hwork.leads.later
  | declined _ _ _ _ hlater | vacant _ _ _ _ hlater | cancelled _ _ hlater
  | spared _ _ _ hlater | closed _ hlater | unclosed _ hlater | opened _ _ hlater
  | unopened _ hlater | unbuilt _ hlater | installed _ _ hlater | retired _ _ hlater
  | gone _ _ _ hlater | rebuilds _ _ _ _ hlater | passes _ _ _ hlater => exact hlater

end Consumer

end MessageBus
