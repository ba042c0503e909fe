import Mathlib.Data.List.Chain
import MessageBus.Proofs.Connection.Steps

/-!
# What the loop of a connection does

The loop takes a failure, dials, rests after a dial that failed and dials again, and announces the
reconnect after one that came through. `Site.transcript` is what it does in a history, each act with
its time, and `Follows` says which act can come after which. In every history each act follows the
one before (`Told.after`), and the acts account for the failures that are taken and for the
reconnects that are announced (`Counted.after`).
-/

set_option autoImplicit false

namespace MessageBus

/-- How often a loop has begun, at most. -/
def LoopPhase.begun : LoopPhase → Nat
  | .absent => 0
  | _ => 1

namespace Connection

/-- What the loop does. -/
inductive Act where
  | begins
  /-- It takes a failure. -/
  | takes (reason : String)
  | dials
  /-- The dial has given no link. -/
  | fails
  /-- The dial has given a link. -/
  | connects (link : Amqp.LinkId)
  /-- It announces a reconnect. -/
  | announces
  | ends
deriving DecidableEq

namespace Act

/-- The reason of a failure that is taken. -/
def reason? : Act → Option String
  | takes reason => some reason
  | _ => none

/-- Whether a link is given. -/
def isConnects : Act → Bool
  | connects _ => true
  | _ => false

/-- Whether the loop may end next. -/
def precedesEnd : Act → Bool
  | begins | takes _ | fails | announces => true
  | _ => false

end Act

/-- What the loop does when it is about to dial. -/
def dialActs (c : Connection) : List Act := if c.isClosed then [.ends] else [.dials]

/-- What the loop does in a step. -/
def acts (c : Connection) : Label → List Act
  | .startLoop => if c.loop = .absent then [.begins] else []
  | .takeFailure => (c.failures.head?.map Act.takes).toList ++ c.dialActs
  | .redialed (some link) => [.connects link, .announces]
  | .redialed none => [.fails]
  | .wake => c.dialActs
  | .leave => [.ends]
  | _ => []

/-- The failure that a step reports. -/
def Label.reason? : Label → Option String
  | .lose _ reason | .report reason => some reason
  | _ => none

namespace Site

/-- What the loop does in an event, with the time. -/
def acts (w : Site) : Event → List (Nat × Act)
  | .own l =>
    if (w.connection.step w.now l).isSome then (w.connection.acts l).map (w.now, ·) else []
  | _ => []

/-- What the loop does in some events, in order. -/
def transcript (w : Site) (es : List Event) : List (Nat × Act) := w.collect acts es

theorem transcript_cons (w : Site) (e : Event) (es : List Event) :
    w.transcript (e :: es) = w.acts e ++ (w.next e).transcript es := rfl

/-- The failure that is reported in an event. -/
def reported (w : Site) : Event → List String
  | .own l => if (w.connection.step w.now l).isSome then l.reason?.toList else []
  | _ => []

/-- The failures that are reported in some events, in order. -/
def reports (w : Site) (es : List Event) : List String := w.collect reported es

theorem reports_cons (w : Site) (e : Event) (es : List Event) :
    w.reports (e :: es) = w.reported e ++ (w.next e).reports es := rfl

/-- No time goes by that the loop would have to rest longer than it wants to: the clock is never
past the end of its rest. -/
def OnTime (w : Site) (es : List Event) : Prop :=
  ∀ front, front <+: es → ∀ time, (w.after front).connection.loop = .resting time →
    (w.after front).now ≤ time

end Site

/-- Which act can come after which, and when; `rested` says which times can be those of a dial that
fails and of the next one. -/
inductive Follows (rested : Nat → Nat → Prop) : Nat × Act → Nat × Act → Prop where
  | takes {t t' : Nat} {a : Act} {reason : String} (ha : a = .begins ∨ a = .announces)
      (ht : t ≤ t') : Follows rested (t, a) (t', .takes reason)
  /-- A failure that is taken is followed by a dial at once. -/
  | dials {t : Nat} {reason : String} : Follows rested (t, .takes reason) (t, .dials)
  | redials {t t' : Nat} (ht : rested t t') : Follows rested (t, .fails) (t', .dials)
  | fails {t t' : Nat} (ht : t ≤ t') : Follows rested (t, .dials) (t', .fails)
  | connects {t t' : Nat} {link : Amqp.LinkId} (ht : t ≤ t') :
      Follows rested (t, .dials) (t', .connects link)
  | announces {t : Nat} {link : Amqp.LinkId} : Follows rested (t, .connects link) (t, .announces)
  | ends {t t' : Nat} {a : Act} (ha : a.precedesEnd = true) (ht : t ≤ t') :
      Follows rested (t, a) (t', .ends)

/-- What the loop has done in a step. -/
inductive Acted (now : Nat) (c c' : Connection) : List Act → Prop where
  | nothing (hloop : c'.loop = c.loop) (hreconnects : c'.reconnects = c.reconnects) :
      Acted now c c' []
  | begins (habsent : c.loop = .absent) (hloop : c'.loop = .waiting)
      (hreconnects : c'.reconnects = c.reconnects) : Acted now c c' [.begins]
  | takes {reason : String} (hwaiting : c.loop = .waiting) (hdown : c'.isConnected = false)
      (hloop : c'.loop = c.redial.loop) (hreconnects : c'.reconnects = c.reconnects) :
      Acted now c c' (.takes reason :: c.dialActs)
  | wakes {time : Nat} (hresting : c.loop = .resting time) (htime : time ≤ now)
      (hloop : c'.loop = c.redial.loop) (hreconnects : c'.reconnects = c.reconnects) :
      Acted now c c' c.dialActs
  | fails (hdialing : c.loop = .dialing)
      (hloop : c'.loop = .resting (now + c.settings.reconnectDelay.ceilMillis))
      (hreconnects : c'.reconnects = c.reconnects) : Acted now c c' [.fails]
  | connects {link : Amqp.LinkId} (hdialing : c.loop = .dialing) (hup : c'.isConnected = true)
      (hloop : c'.loop = .waiting) (hreconnects : c'.reconnects = c.reconnects + 1) :
      Acted now c c' [.connects link, .announces]
  | ends (hleft : c.loop = .waiting ∨ ∃ time, c.loop = .resting time) (hloop : c'.loop = .ended)
      (hreconnects : c'.reconnects = c.reconnects) : Acted now c c' [.ends]

/-- Where the loop stands after what it did last. -/
inductive Stands (delay now : Nat) : LoopPhase → Option (Nat × Act) → Prop where
  | absent : Stands delay now .absent none
  | waiting {t : Nat} {a : Act} (ha : a = .begins ∨ a = .announces) (ht : t ≤ now) :
      Stands delay now .waiting (some (t, a))
  | dialing {t : Nat} (ht : t ≤ now) : Stands delay now .dialing (some (t, .dials))
  | resting {t : Nat} (ht : t ≤ now) : Stands delay now (.resting (t + delay)) (some (t, .fails))
  | ended {t : Nat} (ht : t ≤ now) : Stands delay now .ended (some (t, .ends))

/-- What the loop has done, and where it stands. -/
structure Told (rested : Nat → Nat → Prop) (delay now : Nat) (loop : LoopPhase)
    (past : List (Nat × Act)) : Prop where
  chain : past.IsChain (Follows rested)
  stands : Stands delay now loop past.getLast?

/-- The reasons of the failures that are taken, in order. -/
def taken (acts : List Act) : List String := acts.filterMap Act.reason?

/-- How many dials of the loop come through. -/
def recoveries (acts : List Act) : Nat := acts.countP Act.isConnects

/-- How many reconnects are announced. -/
def announcements (acts : List Act) : Nat := acts.count .announces

/-- How often the loop begins. -/
def beginnings (acts : List Act) : Nat := acts.count .begins

/-- How many failures are taken, compared with the reconnects that are announced. -/
def Balanced (taken announced : Nat) : LoopPhase → Prop
  | .absent | .waiting => taken = announced
  | .dialing | .resting _ => taken = announced + 1
  | .ended => announced ≤ taken ∧ taken ≤ announced + 1

/-- What the acts of the loop account for since a connection was `start`, where `reported` are the
failures that were reported since. -/
structure Counted (start c : Connection) (reported : List String) (did : List Act) : Prop where
  /-- The failures are taken in the order in which they were reported. -/
  order : taken did ++ c.failures = start.failures ++ reported
  announced : start.reconnects + announcements did = c.reconnects
  recovered : recoveries did = announcements did
  balance : Balanced (taken did).length (announcements did) c.loop
  begun : beginnings did ≤ c.loop.begun

variable {rested : Nat → Nat → Prop} {delay now now' : Nat} {loop : LoopPhase}
  {past : List (Nat × Act)} {c c' start : Connection} {l : Label} {w w' : Site} {e : Event}
  {reported : List String} {did : List Act}

/-! ## Single steps -/

theorem Stepped.acted (hs : Stepped now c l c') : Acted now c c' (c.acts l) := by
  cases hs with
  | refused | asked | linked | unlinked | lost | reported | closedAgain | hangsUp | closes
  | hungUp => exact .nothing rfl rfl
  | begun hloop =>
    have hacts : c.acts .startLoop = [] := by simp [acts, hloop]
    exact hacts ▸ .nothing rfl rfl
  | begins habsent =>
    have hacts : c.acts .startLoop = [.begins] := by simp [acts, habsent]
    exact hacts ▸ .begins habsent rfl rfl
  | @takes reason _ hwaiting hfailures =>
    have hacts : c.acts .takeFailure = .takes reason :: c.dialActs := by simp [acts, hfailures]
    exact hacts ▸ .takes hwaiting rfl rfl rfl
  | relinked hdialing => exact .connects hdialing rfl rfl rfl
  | rests hdialing => exact .fails hdialing rfl rfl
  | wakes hresting htime => exact .wakes hresting htime rfl rfl
  | leaves _ hloop => exact .ends hloop rfl rfl

/-! ## Each act follows the one before -/

theorem Told.later (h : Told rested delay now loop past) (hnow : now ≤ now') :
    Told rested delay now' loop past := by
  refine ⟨h.chain, ?_⟩
  have hstands := h.stands
  generalize past.getLast? = last at hstands
  cases hstands with
  | absent => exact .absent
  | waiting ha ht => exact .waiting ha (Nat.le_trans ht hnow)
  | dialing ht => exact .dialing (Nat.le_trans ht hnow)
  | resting ht => exact .resting (Nat.le_trans ht hnow)
  | ended ht => exact .ended (Nat.le_trans ht hnow)

theorem chain_concat {a : Nat × Act} (h : past.IsChain (Follows rested))
    (ha : ∀ last ∈ past.getLast?, Follows rested last a) :
    (past ++ [a]).IsChain (Follows rested) := by
  refine h.append (List.isChain_singleton a) ?_
  intro last hlast next hnext
  obtain rfl := Option.some.inj hnext
  exact ha last hlast

theorem told_concat {a : Nat × Act} (h : past.IsChain (Follows rested))
    (ha : ∀ last ∈ past.getLast?, Follows rested last a)
    (hstands : Stands delay now loop (some a)) : Told rested delay now loop (past ++ [a]) := by
  refine ⟨chain_concat h ha, ?_⟩
  rw [List.getLast?_concat]
  exact hstands

theorem follows_last {last a : Nat × Act} (hlast : past.getLast? = some last)
    (ha : Follows rested last a) : ∀ last ∈ past.getLast?, Follows rested last a := by
  intro last' hmem
  obtain rfl := Option.some.inj (hlast.symm.trans hmem)
  exact ha

/-- A loop that is about to dial dials, or ends. -/
theorem told_redial (h : past.IsChain (Follows rested))
    (hdials : ∀ last ∈ past.getLast?, Follows rested last (now, .dials))
    (hends : ∀ last ∈ past.getLast?, Follows rested last (now, .ends)) :
    Told rested delay now c.redial.loop (past ++ c.dialActs.map (now, ·)) := by
  rw [redial_loop, dialActs]
  cases c.isClosed with
  | true => exact told_concat h hends (.ended (Nat.le_refl _))
  | false => exact told_concat h hdials (.dialing (Nat.le_refl _))

theorem Told.acted {acts : List Act} (h : Told rested delay now c.loop past)
    (hacted : Acted now c c' acts) (hdelay : c.settings.reconnectDelay.ceilMillis = delay)
    (hrested : ∀ t, c.loop = .resting (t + delay) → t + delay ≤ now → rested t now) :
    Told rested delay now c'.loop (past ++ acts.map (now, ·)) := by
  obtain ⟨hchain, hstands⟩ := h
  generalize hlast : past.getLast? = last at hstands
  -- where the loop stands says what its last act was, and so what may follow
  cases hacted with
  | nothing hloop =>
    rw [List.map_nil, List.append_nil, hloop]
    exact ⟨hchain, hlast ▸ hstands⟩
  | begins habsent hloop =>
    rw [habsent] at hstands
    cases hstands
    rw [hloop]
    refine told_concat hchain ?_ (.waiting (.inl rfl) (Nat.le_refl _))
    simp [hlast]
  | @takes reason hwaiting _ hloop =>
    rw [hwaiting] at hstands
    cases hstands with
    | waiting ha ht =>
    have htakes : (past ++ [(now, Act.takes reason)]).IsChain (Follows rested) :=
      chain_concat hchain (follows_last hlast (.takes ha ht))
    rw [hloop, List.map_cons, List.append_cons]
    exact told_redial htakes (follows_last List.getLast?_concat .dials)
      (follows_last List.getLast?_concat (.ends rfl (Nat.le_refl _)))
  | wakes hresting htime hloop =>
    rw [hresting] at hstands
    cases hstands with
    | resting ht =>
    rw [hloop]
    exact told_redial hchain (follows_last hlast (.redials (hrested _ hresting htime)))
      (follows_last hlast (.ends rfl ht))
  | fails hdialing hloop =>
    rw [hdialing] at hstands
    cases hstands with
    | dialing ht =>
    rw [hloop, hdelay]
    exact told_concat hchain (follows_last hlast (.fails ht)) (.resting (Nat.le_refl _))
  | @connects link hdialing _ hloop =>
    rw [hdialing] at hstands
    cases hstands with
    | dialing ht =>
    have hconnects : (past ++ [(now, Act.connects link)]).IsChain (Follows rested) :=
      chain_concat hchain (follows_last hlast (.connects ht))
    rw [hloop, List.map_cons, List.append_cons]
    exact told_concat hconnects (follows_last List.getLast?_concat .announces)
      (.waiting (.inr rfl) (Nat.le_refl _))
  | ends hleft hloop =>
    rw [hloop]
    refine told_concat hchain ?_ (.ended (Nat.le_refl _))
    rcases hleft with hwaiting | ⟨time, hresting⟩
    · rw [hwaiting] at hstands
      cases hstands with
      | @waiting t a ha ht =>
      have hend : a.precedesEnd = true := by rcases ha with rfl | rfl <;> rfl
      exact follows_last hlast (.ends hend ht)
    · rw [hresting] at hstands
      cases hstands with
      | resting ht => exact follows_last hlast (.ends rfl ht)

theorem acts_took (h : w.connection.step w.now l = some c') :
    w.acts (.own l) = (w.connection.acts l).map (w.now, ·) := by
  simp [Site.acts, h]

theorem acts_missed (h : w.connection.step w.now l = none) : w.acts (.own l) = [] := by
  simp [Site.acts, h]

theorem acts_around (h : ∀ l, e ≠ .own l) : w.acts e = [] := by
  cases e with
  | own l => exact absurd rfl (h l)
  | pass | subscribe | read => rfl

theorem Told.next (h : Told rested delay w.now w.connection.loop past)
    (hdelay : w.connection.settings.reconnectDelay.ceilMillis = delay)
    (hrested : ∀ t, w.connection.loop = .resting (t + delay) → t + delay ≤ w.now →
      rested t w.now) (e : Event) :
    Told rested delay (w.next e).now (w.next e).connection.loop (past ++ w.acts e) := by
  have hw := happened_next w e
  generalize w.next e = w' at hw
  cases hw with
  | missed hnone =>
    rw [acts_missed hnone, List.append_nil]
    exact h
  | took hstep hs =>
    rw [acts_took hstep]
    exact h.acted hs.acted hdelay hrested
  | around hown hsame hnow =>
    rw [acts_around hown, List.append_nil, hsame]
    exact h.later hnow

/-- In a history each act of the loop follows the one before, as far as its rests allow that. -/
theorem Told.after (h : Told rested delay w.now w.connection.loop past)
    (hdelay : w.connection.settings.reconnectDelay.ceilMillis = delay) (es : List Event)
    (hrested : ∀ front, front <+: es → ∀ t,
      (w.after front).connection.loop = .resting (t + delay) → t + delay ≤ (w.after front).now →
      rested t (w.after front).now) :
    Told rested delay (w.after es).now (w.after es).connection.loop
      (past ++ w.transcript es) := by
  induction es generalizing w past with
  | nil => simpa [Site.transcript, Site.collect, Site.after] using h
  | cons e rest ih =>
    have hfirst := h.next hdelay (hrested [] List.nil_prefix) e
    rw [Site.transcript_cons, ← List.append_assoc]
    refine ih hfirst ?_ fun front hfront => ?_
    · rw [settings_next]
      exact hdelay
    · exact hrested (e :: front) (List.cons_prefix_cons.2 ⟨rfl, hfront⟩)

/-! ## What the acts account for -/

section

variable (xs ys : List Act)

@[simp] theorem taken_append : taken (xs ++ ys) = taken xs ++ taken ys := List.filterMap_append

@[simp] theorem recoveries_append : recoveries (xs ++ ys) = recoveries xs + recoveries ys :=
  List.countP_append

@[simp] theorem announcements_append :
    announcements (xs ++ ys) = announcements xs + announcements ys := List.count_append

@[simp] theorem beginnings_append : beginnings (xs ++ ys) = beginnings xs + beginnings ys :=
  List.count_append

end

/-- A loop that is about to dial takes nothing and announces nothing by that. -/
structure Uncounted (acts : List Act) : Prop where
  taken : taken acts = []
  recoveries : recoveries acts = 0
  announcements : announcements acts = 0
  beginnings : beginnings acts = 0

theorem uncounted_dialActs (c : Connection) : Uncounted c.dialActs := by
  rw [dialActs]
  cases c.isClosed <;> exact ⟨rfl, rfl, rfl, rfl⟩

theorem Counted.append {acts : List Act} {more : List String} (h : Counted start c reported did)
    (horder : taken acts ++ c'.failures = c.failures ++ more)
    (hannounced : c'.reconnects = c.reconnects + announcements acts)
    (hrecovered : recoveries acts = announcements acts)
    (hbalance : ∀ taken₀ announced, Balanced taken₀ announced c.loop →
      Balanced (taken₀ + (taken acts).length) (announced + announcements acts) c'.loop)
    (hbegun : c.loop.begun + beginnings acts ≤ c'.loop.begun) :
    Counted start c' (reported ++ more) (did ++ acts) := by
  refine ⟨?_, ?_, ?_, ?_, ?_⟩
  · calc taken (did ++ acts) ++ c'.failures
        = taken did ++ (taken acts ++ c'.failures) := by rw [taken_append, List.append_assoc]
      _ = taken did ++ c.failures ++ more := by rw [horder, List.append_assoc]
      _ = start.failures ++ (reported ++ more) := by rw [h.order, List.append_assoc]
  · have hbefore := h.announced
    rw [announcements_append]
    omega
  · rw [recoveries_append, announcements_append, h.recovered, hrecovered]
  · rw [taken_append, announcements_append, List.length_append]
    exact hbalance _ _ h.balance
  · have hbefore := h.begun
    rw [beginnings_append]
    omega

theorem balanced_ended {taken announced : Nat} (h : Balanced taken announced loop) :
    Balanced taken announced .ended := by
  unfold Balanced at h ⊢
  cases loop <;> dsimp only at h ⊢ <;> omega

theorem balanced_redial {taken announced : Nat} (h : Balanced taken announced .dialing) :
    Balanced taken announced c.redial.loop := by
  rw [redial_loop]
  split
  · exact balanced_ended h
  · exact h

theorem begun_le_one (loop : LoopPhase) : loop.begun ≤ 1 := by
  cases loop <;> simp [LoopPhase.begun]

theorem begun_redial (c : Connection) : c.redial.loop.begun = 1 := by
  rw [redial_loop]
  split <;> rfl

/-- What is taken was the first failure that was not, and what is reported is the last. -/
theorem Stepped.failures (hs : Stepped now c l c') :
    taken (c.acts l) ++ c'.failures = c.failures ++ l.reason?.toList := by
  have hdial := (uncounted_dialActs c).taken
  cases hs with
  | @takes reason rest hwaiting hfailures =>
    have hacts : c.acts .takeFailure = [.takes reason] ++ c.dialActs := by simp [acts, hfailures]
    rw [hacts, taken_append, hdial, hfailures]
    exact (List.append_nil _).symm
  | wakes =>
    have hacts : c.acts .wake = c.dialActs := rfl
    rw [hacts, hdial]
    exact (List.append_nil _).symm
  | begins habsent =>
    have hacts : c.acts .startLoop = [.begins] := by simp [acts, habsent]
    rw [hacts]
    exact (List.append_nil _).symm
  | begun hloop =>
    have hacts : c.acts .startLoop = [] := by simp [acts, hloop]
    rw [hacts]
    exact (List.append_nil _).symm
  | lost | reported => rfl
  | _ => exact (List.append_nil _).symm

theorem Counted.stepped (h : Counted start c reported did) (hs : Stepped now c l c') :
    Counted start c' (reported ++ l.reason?.toList) (did ++ c.acts l) := by
  have hacted := hs.acted
  have horder := hs.failures
  have hdial := uncounted_dialActs c
  generalize c.acts l = acts at hacted horder ⊢
  -- a failure is owed from the moment it is taken until a reconnect is announced for it
  cases hacted with
  | nothing hloop hreconnects =>
    refine h.append horder hreconnects rfl ?_ ?_ <;> rw [hloop]
    · exact fun _ _ hb => hb
    · exact Nat.le_refl _
  | begins habsent hloop hreconnects =>
    refine h.append horder hreconnects rfl ?_ ?_ <;> rw [hloop, habsent]
    · exact fun _ _ hb => hb
    · exact Nat.le_refl _
  | @takes reason hwaiting _ hloop hreconnects =>
    have htaken : taken (.takes reason :: c.dialActs) = [reason] := congrArg _ hdial.taken
    have hannounced : announcements (.takes reason :: c.dialActs) = 0 := hdial.announcements
    have hrecovered : recoveries (.takes reason :: c.dialActs) = 0 := hdial.recoveries
    have hbegun : beginnings (.takes reason :: c.dialActs) = 0 := hdial.beginnings
    refine h.append horder (hannounced ▸ hreconnects) (hrecovered.trans hannounced.symm) ?_ ?_
    · rw [htaken, hannounced, hwaiting, hloop]
      intro taken announced hb
      have htaken : taken = announced := hb
      rw [htaken]
      exact balanced_redial rfl
    · rw [hbegun, hloop, begun_redial, hwaiting]
      exact Nat.le_refl _
  | wakes hresting _ hloop hreconnects =>
    refine h.append horder (hdial.announcements ▸ hreconnects)
      (hdial.recoveries.trans hdial.announcements.symm) ?_ ?_
    · rw [hdial.taken, hdial.announcements, hresting, hloop]
      exact fun _ _ hb => balanced_redial hb
    · rw [hdial.beginnings, hloop, begun_redial, hresting]
      exact Nat.le_refl _
  | fails hdialing hloop hreconnects =>
    refine h.append horder hreconnects rfl ?_ ?_ <;> rw [hloop, hdialing]
    · exact fun _ _ hb => hb
    · exact Nat.le_refl _
  | connects hdialing _ hloop hreconnects =>
    refine h.append horder hreconnects rfl ?_ ?_ <;> rw [hloop, hdialing]
    · exact fun _ _ hb => hb
    · exact Nat.le_refl _
  | ends hleft hloop hreconnects =>
    refine h.append horder hreconnects rfl ?_ ?_ <;> rw [hloop]
    · exact fun _ _ hb => balanced_ended hb
    · exact begun_le_one _

theorem Counted.next (h : Counted start w.connection reported did) (e : Event) :
    Counted start (w.next e).connection (reported ++ w.reported e)
      (did ++ (w.acts e).map Prod.snd) := by
  have hw := happened_next w e
  generalize w.next e = w' at hw
  cases hw with
  | missed hnone =>
    simp only [Site.acts, Site.reported, hnone, Option.isSome_none, Bool.false_eq_true, if_false,
      List.map_nil, List.append_nil]
    exact h
  | took hstep hs =>
    have hcounted := h.stepped hs
    simpa [Site.acts, Site.reported, Site.took, hstep, Function.comp_def] using hcounted
  | around hown hsame =>
    rw [hsame]
    cases e with
    | own l => exact absurd rfl (hown l)
    | pass | subscribe | read => simpa [Site.acts, Site.reported] using h

/-- In a history the loop takes failures in order, and announces one reconnect for each failure it
has recovered from. -/
theorem Counted.after (h : Counted start w.connection reported did) (es : List Event) :
    Counted start (w.after es).connection (reported ++ w.reports es)
      (did ++ (w.transcript es).map Prod.snd) := by
  induction es generalizing w reported did with
  | nil => simpa [Site.transcript, Site.reports, Site.collect, Site.after] using h
  | cons e rest ih =>
    have hrest := ih (h.next e)
    rw [Site.transcript_cons, Site.reports_cons, List.map_append, ← List.append_assoc,
      ← List.append_assoc]
    exact hrest

end Connection

end MessageBus
