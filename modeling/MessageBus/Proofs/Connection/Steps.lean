import MessageBus.Backlog
import MessageBus.Connection

/-!
# Steps and histories of connections

`Stepped` says once what a step of a connection can be, and `stepped_of_step` that it is nothing
else. A history is a list of events: steps of the connection, time that goes by, and receivers of
its announcements that subscribe and read. An event that is a step which cannot be taken changes
nothing, so every list of events is a history; `happened_next` says what one event can be.
-/

set_option autoImplicit false

namespace MessageBus.Connection

@[simp] theorem redial_dialing (c : Connection) : c.redial.dialing = c.dialing := rfl

theorem redial_loop (c : Connection) :
    c.redial.loop = if c.isClosed then .ended else .dialing := rfl

/-- What one step can be. -/
inductive Stepped (now : Nat) (c : Connection) : Label → Connection → Prop where
  | refused {call : Nat} (hclosed : c.isClosed = true) :
      Stepped now c (.connect call) (c.answerTo call (.error closedError))
  | asked {call : Nat} (hopen : c.isClosed = false) :
      Stepped now c (.connect call) { c with dialing := c.dialing ++ [call] }
  | linked {call : Nat} {link : Amqp.LinkId} (hcall : call ∈ c.dialing) (hnew : link ∉ c.links) :
      Stepped now c (.dialed call (some link))
        (({ c with dialing := c.dialing.erase call }.install link).answerTo call (.ok ()))
  | unlinked {call : Nat} (hcall : call ∈ c.dialing) :
      Stepped now c (.dialed call none)
        ({ c with dialing := c.dialing.erase call }.answerTo call (.error unreachableError))
  | begins (habsent : c.loop = .absent) : Stepped now c .startLoop { c with loop := .waiting }
  /-- There is a loop already, or there was one. -/
  | begun (hloop : c.loop ≠ .absent) : Stepped now c .startLoop c
  | lost {link : Amqp.LinkId} {reason : String} (hlink : link ∈ c.links) (hnew : link ∉ c.lost) :
      Stepped now c (.lose link reason)
        { c with lost := c.lost ++ [link], failures := c.failures ++ [reason] }
  | reported {reason : String} :
      Stepped now c (.report reason) { c with failures := c.failures ++ [reason] }
  | takes {reason : String} {rest : List String} (hwaiting : c.loop = .waiting)
      (hfailures : c.failures = reason :: rest) :
      Stepped now c .takeFailure { c with failures := rest, isConnected := false }.redial
  | relinked {link : Amqp.LinkId} (hdialing : c.loop = .dialing) (hnew : link ∉ c.links) :
      Stepped now c (.redialed (some link))
        { c.install link with loop := .waiting, reconnects := c.reconnects + 1 }
  | rests (hdialing : c.loop = .dialing) :
      Stepped now c (.redialed none)
        { c with loop := .resting (now + c.settings.reconnectDelay.ceilMillis) }
  | wakes {time : Nat} (hresting : c.loop = .resting time) (htime : time ≤ now) :
      Stepped now c .wake c.redial
  | leaves (hclosed : c.isClosed = true)
      (hloop : c.loop = .waiting ∨ ∃ time, c.loop = .resting time) :
      Stepped now c .leave { c with loop := .ended }
  | closedAgain {call : Nat} {linkAlive : Bool} (hclosed : c.isClosed = true) :
      Stepped now c (.close call linkAlive) (c.answerTo call (.ok ()))
  | hangsUp {call : Nat} {link : Amqp.LinkId} (hopen : c.isClosed = false)
      (hlink : c.link = some link) :
      Stepped now c (.close call true) { c.shut with closing := c.closing ++ [(call, link)] }
  /-- There is no link to be closed, or it is dead. -/
  | closes {call : Nat} {linkAlive : Bool} (hopen : c.isClosed = false)
      (hlink : c.link = none ∨ linkAlive = false) :
      Stepped now c (.close call linkAlive) (c.shut.answerTo call (.ok ()))
  | hungUp {call : Nat} {agreed : Bool} (hcall : (c.closing.lookup call).isSome = true) :
      Stepped now c (.hungUp call agreed)
        ({ c with closing := c.closing.filter (·.1 ≠ call) }.answerTo call
          (if agreed then .ok () else .error unclosedError))

variable {now : Nat} {c c' : Connection} {l : Label}

theorem stepped_of_step (h : c.step now l = some c') : Stepped now c l c' := by
  cases l with
  | connect call =>
    rw [step] at h
    split at h
    · next hclosed => exact Option.some.inj h ▸ .refused hclosed
    · next hopen => exact Option.some.inj h ▸ .asked (by simpa using hopen)
  | dialed call link =>
    rw [step] at h
    split at h
    · next hcall =>
      cases link with
      | none => exact Option.some.inj h ▸ .unlinked hcall
      | some link =>
        dsimp only at h
        split at h
        · cases h
        · next hnew => exact Option.some.inj h ▸ .linked hcall hnew
    · cases h
  | startLoop =>
    rw [step] at h
    split at h
    · next habsent => exact Option.some.inj h ▸ .begins habsent
    · next hloop => exact Option.some.inj h ▸ .begun hloop
  | lose link reason =>
    rw [step] at h
    split at h
    · next hlink => exact Option.some.inj h ▸ .lost hlink.1 hlink.2
    · cases h
  | report reason => exact Option.some.inj h ▸ .reported
  | takeFailure =>
    rw [step] at h
    split at h
    · next hwaiting hfailures => exact Option.some.inj h ▸ .takes hwaiting hfailures
    · cases h
  | redialed link =>
    simp only [step] at h
    split at h
    · next hdialing =>
      cases link with
      | none => exact Option.some.inj h ▸ .rests hdialing
      | some link =>
        dsimp only at h
        split at h
        · cases h
        · next hnew => exact Option.some.inj h ▸ .relinked hdialing hnew
    · cases h
  | wake =>
    rw [step] at h
    split at h
    · next hresting =>
      split at h
      · next htime => exact Option.some.inj h ▸ .wakes hresting htime
      · cases h
    · cases h
  | leave =>
    rw [step] at h
    split at h
    · next hwaiting =>
      split at h
      · next hclosed => exact Option.some.inj h ▸ .leaves hclosed (.inl hwaiting)
      · cases h
    · next time hresting =>
      split at h
      · next hclosed => exact Option.some.inj h ▸ .leaves hclosed (.inr ⟨time, hresting⟩)
      · cases h
    · cases h
  | close call linkAlive =>
    simp only [step] at h
    split at h
    · next hclosed => exact Option.some.inj h ▸ .closedAgain hclosed
    · next hopen =>
      have hopen : c.isClosed = false := by simpa using hopen
      cases hlink : c.link with
      | none =>
        rw [hlink] at h
        exact Option.some.inj h ▸ .closes hopen (.inl hlink)
      | some link =>
        rw [hlink] at h
        cases linkAlive with
        | false => exact Option.some.inj h ▸ .closes hopen (.inr rfl)
        | true => exact Option.some.inj h ▸ .hangsUp hopen hlink
  | hungUp call agreed =>
    rw [step] at h
    split at h
    · next hcall => exact Option.some.inj h ▸ .hungUp hcall
    · cases h

@[simp] theorem Stepped.settings (h : Stepped now c l c') : c'.settings = c.settings := by
  cases h <;> rfl

/-! ## Histories -/

/-- A connection with the clock, and with what the receivers of its announcements have not read. -/
structure Site where
  now : Nat := 0
  connection : Connection
  receivers : List Backlog := []

/-- What happens to a connection and around it. -/
inductive Event where
  | own (l : Label)
  /-- So many milliseconds go by. -/
  | pass (millis : Nat)
  /-- One more receiver subscribes. -/
  | subscribe
  /-- A receiver reads the first thing it has not read. -/
  | read (receiver : Nat)

namespace Site

/-- The connection has taken a step; a reconnect that it announces comes to all receivers. -/
def took (w : Site) (c : Connection) : Site :=
  { w with
    connection := c
    receivers :=
      if c.reconnects = w.connection.reconnects then w.receivers
      else w.receivers.map Backlog.push }

/-- The site after an event. -/
def next (w : Site) : Event → Site
  | .own l => ((w.connection.step w.now l).map w.took).getD w
  | .pass millis => { w with now := w.now + millis }
  | .subscribe => { w with receivers := w.receivers ++ [{}] }
  | .read receiver =>
    { w with
      receivers := w.receivers.modify receiver fun b => ((b.take?).map Prod.snd).getD b }

/-- The site after some events. -/
def after (w : Site) (es : List Event) : Site := es.foldl next w

/-- What every event of a history adds, in order; it depends on the site before the event. -/
def collect {α : Type} (f : Site → Event → List α) (w : Site) : List Event → List α
  | [] => []
  | e :: es => f w e ++ (w.next e).collect f es

theorem collect_append {α : Type} (f : Site → Event → List α) (w : Site) (es es' : List Event) :
    w.collect f (es ++ es') = w.collect f es ++ (w.after es).collect f es' := by
  induction es generalizing w with
  | nil => rfl
  | cons e rest ih =>
    rw [List.cons_append, collect, ih, collect, List.append_assoc]
    rfl

end Site

/-- What an event can be. -/
inductive Happened (w : Site) : Event → Site → Prop where
  /-- The step cannot be taken. -/
  | missed {l : Label} (hnone : w.connection.step w.now l = none) : Happened w (.own l) w
  | took {l : Label} {c' : Connection} (hstep : w.connection.step w.now l = some c')
      (hstepped : Stepped w.now w.connection l c') : Happened w (.own l) (w.took c')
  /-- Something goes on around the connection. -/
  | around {e : Event} {w' : Site} (hown : ∀ l, e ≠ .own l)
      (hsame : w'.connection = w.connection) (hnow : w.now ≤ w'.now) : Happened w e w'

variable {w w' : Site} {e : Event}

theorem happened_next (w : Site) (e : Event) : Happened w e (w.next e) := by
  cases e with
  | own l =>
    rw [Site.next]
    cases h : w.connection.step w.now l with
    | none => exact .missed h
    | some c' => exact .took h (stepped_of_step h)
  | pass millis => exact .around (fun l hl => nomatch hl) rfl (Nat.le_add_right _ _)
  | subscribe | read => exact .around (fun l hl => nomatch hl) rfl (Nat.le_refl _)

/-- What every step of some kind keeps is kept by every event of that kind. -/
theorem Happened.keeps {P : Connection → Prop} (h : Happened w e w') (hw : P w.connection)
    (hstep : ∀ l c', e = .own l → Stepped w.now w.connection l c' → P c') : P w'.connection := by
  cases h with
  | missed => exact hw
  | took _ hstepped => exact hstep _ _ rfl hstepped
  | around _ hsame => exact hsame ▸ hw

theorem settings_next (w : Site) (e : Event) :
    (w.next e).connection.settings = w.connection.settings :=
  (happened_next w e).keeps (P := fun c => c.settings = w.connection.settings) rfl
    fun _ _ _ hstepped => hstepped.settings

@[simp] theorem settings_after (w : Site) (es : List Event) :
    (w.after es).connection.settings = w.connection.settings := by
  induction es generalizing w with
  | nil => rfl
  | cons e rest ih => exact (ih (w.next e)).trans (settings_next w e)

end MessageBus.Connection
