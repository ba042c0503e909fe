import Mathlib.Algebra.Ring.Nat
import MessageBus.Bus
import MessageBus.Proofs.Connection.Following
import MessageBus.Proofs.Connection.Transcript

/-!
# The loop of a connection

The loop recovers from one failure after the other: it takes the first one that is reported, and
dials until a dial comes through, resting for the reconnect delay after each one that fails; the
connection is down until then. It announces one reconnect for each failure it has recovered from,
and every receiver reads of it, or of a lag that covers it. Once the connection is closed it does
not dial any more. Main statement: `redial_law`.
-/

set_option autoImplicit false

namespace MessageBus

namespace Connection

/-- Dials of the loop that last so long and fail, with rests between them. -/
def failing (delay : Nat) (dials : List Nat) : List Event :=
  dials.flatMap fun millis => [.pass millis, .own (.redialed none), .pass delay, .own .wake]

/-- What the loop does meanwhile. -/
def redials (delay now : Nat) : List Nat → List (Nat × Act)
  | [] => []
  | millis :: dials =>
    (now + millis, .fails) :: (now + millis + delay, .dials) ::
      redials delay (now + millis + delay) dials

namespace Site

/-- What a receiver reads in an event. -/
def heardIn (w : Site) (receiver : Nat) : Event → List Signal
  | .read r =>
    if r = receiver then (((w.receivers[receiver]?).bind Backlog.take?).map Prod.fst).toList else []
  | _ => []

/-- What a receiver reads in some events. -/
def heard (w : Site) (receiver : Nat) (es : List Event) : List Signal :=
  w.collect (fun w => w.heardIn receiver) es

theorem heard_cons (w : Site) (receiver : Nat) (e : Event) (es : List Event) :
    w.heard receiver (e :: es) = w.heardIn receiver e ++ (w.next e).heard receiver es := rfl

/-- What the loop does in some events, without the times. -/
def deeds (w : Site) (es : List Event) : List Act := (w.transcript es).map Prod.snd

end Site

/-- The loop is never stuck: it takes what is reported, dials again after a rest, and goes on
however a dial ends. -/
structure Ready (now : Nat) (c : Connection) : Prop where
  waiting : c.loop = .waiting → c.failures ≠ [] → (c.step now .takeFailure).isSome = true
  resting : ∀ time, c.loop = .resting time → time ≤ now → (c.step now .wake).isSome = true
  failing : c.loop = .dialing → (c.step now (.redialed none)).isSome = true
  dialing : c.loop = .dialing → ∀ link ∉ c.links, (c.step now (.redialed (some link))).isSome = true

/-- The connection of a bus is up, and all watchers of the bus are told of a reconnect. -/
structure Announced (before after : Bus) : Prop where
  isConnected : after.connection.isConnected = true
  watchers : after.consumers = before.consumers.map fun c =>
    { c with watchers := c.watchers.map fun w => { w with reconnects := w.reconnects.push } }

variable {delay now : Nat} {c c' : Connection} {l : Label} {w w' : Site} {e : Event}
  {es : List Event} {receiver : Nat} {b : Backlog}

/-! ## Taking, dialing and announcing -/

/-- A loop that was not begun does nothing but begin. -/
theorem Acted.first {acts : List Act} (h : Acted now c c' acts) (habsent : c.loop = .absent) :
    (acts = [] ∧ c'.loop = .absent) ∨ acts = [.begins] := by
  cases h with
  | nothing hloop => exact .inl ⟨rfl, hloop.trans habsent⟩
  | begins => exact .inr rfl
  | takes hloop | wakes hloop | fails hloop | connects hloop =>
    rw [habsent] at hloop
    cases hloop
  | ends hleft =>
    rw [habsent] at hleft
    rcases hleft with hloop | ⟨time, hloop⟩ <;> cases hloop

/-- A failure that is taken takes the connection down. -/
theorem Acted.taken {acts : List Act} (h : Acted now c c' acts) {reason : String}
    (htakes : .takes reason ∈ acts) : c'.isConnected = false := by
  cases h with
  | takes _ hdown => exact hdown
  | wakes =>
    rw [dialActs] at htakes
    split at htakes <;> simp at htakes
  | _ => simp at htakes

/-- A reconnect is announced, one at a time, where the connection is up again. -/
theorem Acted.announces {acts : List Act} (h : Acted now c c' acts) :
    c'.reconnects = c.reconnects + announcements acts ∧
      (.announces ∈ acts → announcements acts = 1 ∧ c'.isConnected = true) := by
  have hdial := (uncounted_dialActs c).announcements
  have hnone : announcements acts = 0 → c'.reconnects = c.reconnects →
      c'.reconnects = c.reconnects + announcements acts ∧
        (.announces ∈ acts → announcements acts = 1 ∧ c'.isConnected = true) := by
    intro hzero hsame
    rw [hzero]
    exact ⟨hsame, fun hmem => absurd hmem (List.count_eq_zero.1 hzero)⟩
  cases h with
  | connects _ hup _ hreconnects => exact ⟨hreconnects, fun _ => ⟨rfl, hup⟩⟩
  | takes _ _ _ hreconnects | wakes _ _ _ hreconnects => exact hnone hdial hreconnects
  | nothing _ hreconnects => exact hnone rfl hreconnects
  | begins _ _ hreconnects | fails _ _ hreconnects | ends _ _ hreconnects =>
    exact hnone rfl hreconnects

/-- A closed connection does not dial. -/
theorem Acted.undialed {acts : List Act} (h : Acted now c c' acts) (hclosed : c.isClosed = true) :
    .dials ∉ acts := by
  have hdial : c.dialActs = [.ends] := if_pos hclosed
  cases h with
  | takes | wakes => simp [hdial]
  | _ => simp

/-- What the loop does in an event is what it does in a step. -/
theorem acted_next (w : Site) (e : Event) :
    (w.acts e = [] ∧ (w.next e).connection = w.connection) ∨
      ∃ acts, w.acts e = acts.map (w.now, ·) ∧
        Acted w.now w.connection (w.next e).connection acts := by
  have hw := happened_next w e
  generalize w.next e = w' at hw
  cases hw with
  | missed hnone => exact .inl ⟨acts_missed hnone, rfl⟩
  | took hstep hs => exact .inr ⟨_, acts_took hstep, hs.acted⟩
  | around hown hsame => exact .inl ⟨acts_around hown, hsame⟩

/-- What is done in an event is done in a step from the connection to the one after it. -/
theorem acted_of_mem {a : Nat × Act} (h : a ∈ w.acts e) :
    ∃ acts, a.2 ∈ acts ∧ Acted w.now w.connection (w.next e).connection acts := by
  rcases acted_next w e with ⟨hacts, -⟩ | ⟨acts, hacts, hacted⟩
  · rw [hacts] at h
    cases h
  · obtain ⟨act, hmem, rfl⟩ := List.mem_map.1 (hacts ▸ h)
    exact ⟨acts, hmem, hacted⟩

theorem head_transcript (h : w.connection.loop = .absent) :
    ∀ a ∈ (w.transcript es).head?, a.2 = .begins := by
  induction es generalizing w with
  | nil => simp [Site.transcript, Site.collect]
  | cons e rest ih =>
    rw [Site.transcript_cons]
    rcases acted_next w e with ⟨hacts, hsame⟩ | ⟨acts, hacts, hacted⟩
    · rw [hacts, List.nil_append]
      exact ih (hsame ▸ h)
    · rw [hacts]
      rcases hacted.first h with ⟨rfl, hloop⟩ | rfl
      · exact ih hloop
      · rintro _ ⟨⟩
        rfl

/-- A closed connection dials in no history. -/
theorem undialed_transcript (h : w.connection.isClosed = true) :
    ∀ a ∈ w.transcript es, a.2 ≠ .dials := by
  induction es generalizing w with
  | nil => simp [Site.transcript, Site.collect]
  | cons e rest ih =>
    rw [Site.transcript_cons]
    intro a ha
    rcases List.mem_append.1 ha with ha | ha
    · obtain ⟨acts, hmem, hacted⟩ := acted_of_mem ha
      exact fun hdials => hacted.undialed h (hdials ▸ hmem)
    · exact ih ((happened_next w e).isClosed h) a ha

/-- The loop ends only where the connection is closed. -/
theorem Stepped.ended (hs : Stepped now c l c') (h : c.loop = .ended → c.isClosed = true) :
    c'.loop = .ended → c'.isClosed = true := by
  cases hs with
  | begins | relinked | rests => exact fun hloop => nomatch hloop
  | takes | wakes =>
    rw [redial_loop]
    split
    · next hclosed => exact fun _ => hclosed
    · exact fun hloop => nomatch hloop
  | leaves hclosed => exact fun _ => hclosed
  | hangsUp | closes => exact fun _ => rfl
  | _ => exact h

theorem ended_after (h : w.connection.loop = .ended → w.connection.isClosed = true)
    (es : List Event) :
    (w.after es).connection.loop = .ended → (w.after es).connection.isClosed = true :=
  List.foldlRecOn (motive := fun w => w.connection.loop = .ended → w.connection.isClosed = true) es
    Site.next h fun w hw e _ => (happened_next w e).keeps
      (P := fun c => c.loop = .ended → c.isClosed = true) hw fun _ _ _ hs => hs.ended hw

theorem ready (now : Nat) (c : Connection) : Ready now c := by
  refine ⟨?_, ?_, ?_, ?_⟩
  · intro hwaiting hfailures
    obtain ⟨reason, rest, hcons⟩ := List.exists_cons_of_ne_nil hfailures
    simp [step, hwaiting, hcons]
  · intro time hresting htime
    simp [step, hresting, htime]
  · intro hdialing
    simp [step, hdialing]
  · intro hdialing link hnew
    simp [step, hdialing, hnew]

/-! ## Dials that go on failing -/

theorem transcript_append (w : Site) (es es' : List Event) :
    w.transcript (es ++ es') = w.transcript es ++ (w.after es).transcript es' :=
  Site.collect_append _ _ _ _

/-- One dial that fails, with the rest after it. -/
theorem failing_once (hdialing : w.connection.loop = .dialing)
    (hopen : w.connection.isClosed = false)
    (hdelay : w.connection.settings.reconnectDelay.ceilMillis = delay) (millis : Nat) :
    ∃ w', w.after [.pass millis, .own (.redialed none), .pass delay, .own .wake] = w' ∧
      w.transcript [.pass millis, .own (.redialed none), .pass delay, .own .wake] =
        [(w.now + millis, .fails), (w.now + millis + delay, .dials)] ∧
      w'.now = w.now + millis + delay ∧ w'.connection.loop = .dialing ∧
      w'.connection.isClosed = false ∧ w'.connection.settings = w.connection.settings := by
  refine ⟨_, rfl, ?_, ?_, ?_, ?_, ?_⟩ <;>
    simp [Site.transcript, Site.collect, Site.acts, Site.after, Site.next, Site.took, step, redial,
      acts, dialActs, hdialing, hdelay, hopen]

theorem transcript_failing (hdialing : w.connection.loop = .dialing)
    (hopen : w.connection.isClosed = false)
    (hdelay : w.connection.settings.reconnectDelay.ceilMillis = delay) (dials : List Nat) :
    w.transcript (failing delay dials) = redials delay w.now dials := by
  induction dials generalizing w with
  | nil => rfl
  | cons millis rest ih =>
    obtain ⟨w', hafter, hacts, hnow, hdialing', hopen', hsettings⟩ :=
      failing_once hdialing hopen hdelay millis
    have hrest := ih hdialing' hopen' (hsettings ▸ hdelay)
    rw [failing, List.flatMap_cons, transcript_append, hafter, hacts, ← failing, hrest, hnow]
    rfl

/-! ## What receivers read -/

/-- What comes to a receiver in an event it reads, or has still to read. -/
theorem unread_next (e : Event) (hb : w.receivers[receiver]? = some b) :
    ∃ b', (w.next e).receivers[receiver]? = some b' ∧
      b.unread + announcements ((w.acts e).map Prod.snd) =
        ((w.heardIn receiver e).map Signal.covers).sum + b'.unread := by
  cases e with
  | own l =>
    cases hstep : w.connection.step w.now l with
    | none =>
      refine ⟨b, by simpa [Site.next, hstep] using hb, ?_⟩
      simp [acts_missed hstep, Site.heardIn, announcements]
    | some c' =>
      have hnext : w.next (.own l) = w.took c' := by simp [Site.next, hstep]
      have hacts : (w.acts (.own l)).map Prod.snd = w.connection.acts l := by
        simp [acts_took hstep, Function.comp_def]
      obtain ⟨hreconnects, hone⟩ := (stepped_of_step hstep).acted.announces
      rw [hnext, hacts]
      by_cases hsame : c'.reconnects = w.connection.reconnects
      · refine ⟨b, by simpa [Site.took, hsame] using hb, ?_⟩
        have hzero : announcements (w.connection.acts l) = 0 := by omega
        simp [hzero, Site.heardIn]
      · refine ⟨b.push, by simp [Site.took, hsame, hb], ?_⟩
        have hpos : 0 < announcements (w.connection.acts l) := by omega
        obtain ⟨hcount, -⟩ := hone (List.count_pos_iff.1 hpos)
        simp [hcount, Site.heardIn, Backlog.unread_push]
  | pass => exact ⟨b, hb, by simp [Site.acts, Site.heardIn, announcements]⟩
  | subscribe =>
    refine ⟨b, ?_, by simp [Site.acts, Site.heardIn, announcements]⟩
    obtain ⟨hlt, hget⟩ := List.getElem?_eq_some_iff.1 hb
    rw [Site.next, List.getElem?_append_left hlt]
    exact hb
  | read r =>
    have hacts : announcements ((w.acts (.read r)).map Prod.snd) = 0 := rfl
    rw [hacts, Site.heardIn]
    by_cases hr : r = receiver
    · rw [if_pos hr, hb, Option.bind_some]
      cases htake : b.take? with
      | none => exact ⟨b, by simp [Site.next, hr, hb, htake], by simp⟩
      | some read =>
        refine ⟨read.2, by simp [Site.next, hr, hb, htake], ?_⟩
        simpa using Backlog.unread_take? htake
    · rw [if_neg hr]
      refine ⟨b, ?_, by simp⟩
      simpa [Site.next, List.getElem?_modify, hr] using hb

/-- Whatever is announced to a receiver it reads in time, or has still to read. -/
theorem unread_after (hb : w.receivers[receiver]? = some b) (es : List Event) :
    ∃ b', (w.after es).receivers[receiver]? = some b' ∧
      b.unread + announcements (w.deeds es) =
        ((w.heard receiver es).map Signal.covers).sum + b'.unread := by
  induction es generalizing w b with
  | nil =>
    exact ⟨b, hb,
      by simp [Site.deeds, Site.transcript, Site.heard, Site.collect, announcements]⟩
  | cons e rest ih =>
    obtain ⟨b₁, hb₁, hfirst⟩ := unread_next e hb
    obtain ⟨b₂, hb₂, hrest⟩ := ih hb₁
    refine ⟨b₂, hb₂, ?_⟩
    have hdeeds : announcements (w.deeds (e :: rest)) =
        announcements ((w.acts e).map Prod.snd) + announcements ((w.next e).deeds rest) := by
      rw [Site.deeds, Site.transcript_cons, List.map_append, announcements_append]
      rfl
    rw [hdeeds, Site.heard_cons, List.map_append, List.sum_append]
    omega

/-- There is something to read as long as anything is not read. -/
theorem exists_take (h : b.unread ≠ 0) : ∃ s b', b.take? = some (s, b') := by
  have hempty : b.isEmpty = false := by
    rw [Bool.eq_false_iff]
    intro hempty
    simp only [Backlog.isEmpty, Bool.and_eq_true, beq_iff_eq] at hempty
    exact h (by rw [Backlog.unread, hempty.1, hempty.2])
  obtain ⟨s, b', htake, -⟩ := Backlog.exists_take? hempty
  exact ⟨s, b', htake⟩

/-! ## In a bus -/

/-- A dial of the loop that announces a reconnect has brought the connection up. -/
theorem isConnected_of_redial {c c' : Connection} {s s' : Scene}
    (h : c.redial? s = some (s', c')) (hreconnects : c'.reconnects ≠ c.reconnects) :
    c'.isConnected = true := by
  unfold redial? at h
  split at h
  · generalize c.dial s = dialed at h
    obtain ⟨link, s₁⟩ := dialed
    obtain ⟨c'', hstep, heq⟩ := Option.map_eq_some_iff.1 h
    obtain ⟨-, rfl⟩ := Prod.mk.inj heq
    obtain ⟨hcount, hone⟩ := (stepped_of_step hstep).acted.announces
    have hpos : 0 < announcements (c.acts (.redialed link)) := by omega
    exact (hone (List.count_pos_iff.1 hpos)).2
  · cases h

/-- In a bus the watchers of all consumers are the receivers. -/
theorem announced_of_brokerStep {bus bus' : Bus} {s s' : Scene}
    (h : bus.brokerStep? s = some (s', bus'))
    (hreconnects : bus'.connection.reconnects ≠ bus.connection.reconnects) :
    Announced bus bus' := by
  unfold Bus.brokerStep? at h
  split at h
  · next s₁ c hredial =>
    obtain ⟨-, rfl⟩ := Prod.mk.inj (Option.some.inj h)
    by_cases hc : c.reconnects = bus.connection.reconnects
    · simp [hc] at hreconnects
    · rw [if_pos hc]
      exact ⟨isConnected_of_redial hredial hc, rfl⟩
  · obtain ⟨i, -, hi⟩ := List.exists_of_findSome?_eq_some h
    obtain ⟨c, -, hc⟩ := Option.bind_eq_some_iff.1 hi
    obtain ⟨⟨s₁, c'⟩, -, heq⟩ := Option.bind_eq_some_iff.1 hc
    obtain ⟨-, rfl⟩ := Prod.mk.inj (Option.some.inj heq)
    exact absurd rfl hreconnects

/-! ## The law -/

/-- What holds of a connection whose loop has not begun, in all histories. -/
structure RedialLaw (start : Site) : Prop where
  /-- The rest between two dials is the delay of the settings, to the millisecond. -/
  delay : start.connection.settings.reconnectDelay.ceilMillis =
    start.connection.settings.reconnectDelayMillis.toNat
  /-- The loop begins, and then takes failures one at a time: each one is followed by dials until
  one comes through, and that by an announcement. It rests for the delay at least. -/
  course : ∀ es, (∀ a ∈ (start.transcript es).head?, a.2 = .begins) ∧
    (start.transcript es).IsChain
      (Follows fun t t' => t + start.connection.settings.reconnectDelay.ceilMillis ≤ t')
  /-- Where the clock keeps up with its rests it rests for the delay exactly. -/
  onTime : ∀ es, start.OnTime es → (start.transcript es).IsChain
    (Follows fun t t' => t' = t + start.connection.settings.reconnectDelay.ceilMillis)
  /-- It takes the failures in order, announces one reconnect for each dial that comes through, and
  has recovered from all that it has taken but the one at hand. It begins once at most. -/
  counted : ∀ es, Counted start.connection (start.after es).connection (start.reports es)
    (start.deeds es)
  once : ∀ es, beginnings (start.deeds es) ≤ 1
  /-- The connection is down from the moment at which a failure is taken. -/
  taken : ∀ es e t reason, (t, .takes reason) ∈ (start.after es).acts e →
    ((start.after es).next e).connection.isConnected = false
  /-- It stays down while the loop recovers, if nobody else dials. -/
  recovering : start.connection.dialing = [] → ∀ es, (∀ e ∈ es, e.isConnect = false) →
    (start.after es).connection.loop.isRecovering = true →
    (start.after es).connection.isConnected = false
  /-- It is up again where a reconnect is announced. -/
  announced : ∀ es e t, (t, .announces) ∈ (start.after es).acts e →
    ((start.after es).next e).connection.isConnected = true
  /-- The loop goes on as long as the connection is not closed. -/
  ready : ∀ es, Ready (start.after es).now (start.after es).connection
  ended : ∀ es, (start.after es).connection.loop = .ended →
    (start.after es).connection.isClosed = true
  /-- However many dials fail, and however long they last, each is followed by another one after
  the delay. -/
  unbounded : ∀ es, (start.after es).connection.loop = .dialing →
    (start.after es).connection.isClosed = false → ∀ dials,
    (start.after es).transcript
        (failing start.connection.settings.reconnectDelay.ceilMillis dials) =
      redials start.connection.settings.reconnectDelay.ceilMillis (start.after es).now dials
  /-- Every receiver reads of the reconnects that are announced once it has subscribed, or of lags
  that cover them, as long as it goes on reading. -/
  received : ∀ es receiver b, (start.after es).receivers[receiver]? = some b → ∀ es',
    ∃ b', ((start.after es).after es').receivers[receiver]? = some b' ∧
      b.unread + announcements ((start.after es).deeds es') =
        (((start.after es).heard receiver es').map Signal.covers).sum + b'.unread ∧
      (b'.unread ≠ 0 → ∃ s rest, b'.take? = some (s, rest))
  /-- In a bus these are the watchers of all consumers. -/
  watched : ∀ (bus bus' : Bus) (s s' : Scene), bus.brokerStep? s = some (s', bus') →
    bus'.connection.reconnects ≠ bus.connection.reconnects → Announced bus bus'
  /-- Once the connection is closed no dial begins. -/
  closed : ∀ es, (start.after es).connection.isClosed = true →
    ∀ es', .dials ∉ (start.after es).deeds es'

theorem told_nil {rested : Nat → Nat → Prop} (h : w.connection.loop = .absent) :
    Told rested delay w.now w.connection.loop [] := by
  rw [h]
  exact ⟨List.isChain_nil, .absent⟩

theorem counted_nil (h : c.loop = .absent) : Counted c c [] [] := by
  refine ⟨(List.append_nil _).symm, rfl, rfl, ?_, Nat.zero_le _⟩
  rw [h]
  exact rfl

/-- The loop of a connection recovers from the failures that are reported, one at a time and in
order, and announces one reconnect for each. -/
theorem redial_law (start : Site) (habsent : start.connection.loop = .absent) :
    RedialLaw start where
  delay := Duration.ceilMillis_ofMillis (UInt64.toNat_lt _)
  course es := by
    have htold : Told (fun t t' => t + start.connection.settings.reconnectDelay.ceilMillis ≤ t')
        _ _ _ ([] ++ start.transcript es) :=
      (told_nil habsent).after rfl es fun _ _ _ _ hle => hle
    exact ⟨head_transcript habsent, htold.chain⟩
  onTime es hes := by
    have htold : Told (fun t t' => t' = t + start.connection.settings.reconnectDelay.ceilMillis)
        _ _ _ ([] ++ start.transcript es) :=
      (told_nil habsent).after rfl es fun front hfront t hresting hle =>
        Nat.le_antisymm (hes front hfront _ hresting) hle
    exact htold.chain
  counted es := (counted_nil habsent).after es
  once es := Nat.le_trans ((counted_nil habsent).after es).begun (begun_le_one _)
  taken es e t reason h := by
    obtain ⟨acts, hmem, hacted⟩ := acted_of_mem h
    exact hacted.taken hmem
  recovering hdialing es hes := by
    have halone : Alone start.connection := by
      refine ⟨hdialing, fun hloop => ?_⟩
      rw [habsent] at hloop
      cases hloop
    exact (halone.after hes).recovering
  announced es e t h := by
    obtain ⟨acts, hmem, hacted⟩ := acted_of_mem h
    exact (hacted.announces.2 hmem).2
  ready es := ready _ _
  ended es := ended_after (fun hloop => by simp [habsent] at hloop) es
  unbounded es hdialing hopen dials :=
    transcript_failing hdialing hopen (by rw [settings_after]) dials
  received es receiver b hb es' := by
    obtain ⟨b', hb', hcovers⟩ := unread_after hb es'
    exact ⟨b', hb', hcovers, exists_take⟩
  watched _ _ _ _ h hreconnects := announced_of_brokerStep h hreconnects
  closed es hclosed es' hmem := by
    obtain ⟨a, ha, hdials⟩ := List.mem_map.1 hmem
    exact undialed_transcript hclosed a ha hdials

/-- The law at work: a connection was dialed, and its loop is about to begin. -/
theorem redial_law_dialed :
    let start : Site := { connection := ({ settings := {} } : Connection).install 0 }
    start.connection.loop = .absent ∧ RedialLaw start :=
  ⟨rfl, redial_law _ rfl⟩

/-- Two failures are reported. The loop dials twice to recover from the first one, and the
connection is closed while it dials to recover from the second. -/
example :
    let start : Site := { connection := ({ settings := {} } : Connection).install 0 }
    start.transcript ([.own .startLoop, .own (.lose 0 "first"), .own (.report "second"),
        .own .takeFailure, .pass 20, .own (.redialed none), .pass 500, .own .wake,
        .own (.redialed (some 1)), .own .takeFailure, .own (.close 0 false), .pass 10,
        .own (.redialed none), .own .leave] : List Event) =
      [(0, .begins), (0, .takes "first"), (0, .dials), (20, .fails), (520, .dials),
        (520, .connects 1), (520, .announces), (520, .takes "second"), (520, .dials),
        (530, .fails), (530, .ends)] := by
  decide

end Connection

end MessageBus
