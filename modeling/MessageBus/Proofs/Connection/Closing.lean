import MessageBus.Proofs.Connection.Steps

/-!
# Closing a connection

Once a connection is closed no new dial begins, and it stays down: it has no link, no channel can be
opened, and no reconnect is announced. Only a dial that was already under way can bring it back,
since it puts its link in use whatever has become of the connection (`dial_outlives_close`), and
then there is no closing it any more. Main statement: `close_law`.
-/

set_option autoImplicit false

namespace MessageBus

/-- How many dials of the loop are under way. -/
def LoopPhase.dials : LoopPhase → Nat
  | .dialing => 1
  | _ => 0

namespace Connection

/-- How many dials are under way. -/
def inFlight (c : Connection) : Nat := c.dialing.length + c.loop.dials

/-- Whether a step is the end of a dial that gave a link. -/
def Label.comesThrough : Label → Bool
  | .dialed _ (some _) | .redialed (some _) => true
  | _ => false

/-- How many dials come through in an event. -/
def Site.arrived (w : Site) : Event → Nat
  | .own l => if l.comesThrough ∧ (w.connection.step w.now l).isSome then 1 else 0
  | _ => 0

/-- How many dials come through in some events. -/
def Site.arrivals (w : Site) : List Event → Nat
  | [] => 0
  | e :: es => w.arrived e + (w.next e).arrivals es

/-- A connection is down, and no reconnect was announced since an earlier state. -/
structure Down (earlier c : Connection) : Prop where
  isConnected : c.isConnected = false
  link : c.link = none
  reconnects : c.reconnects = earlier.reconnects

/-- A connection that is down is reported to be so, and gives nobody a channel. -/
structure OutOfUse (c : Connection) : Prop where
  health : c.health = .error (.connection "rabbitmq is not connected")
  channel : ∀ s, c.openChannel s = (.error (.channel "no active connection"), s)

theorem Down.outOfUse {earlier c : Connection} (h : Down earlier c) : OutOfUse c where
  health := by simp [health, h.isConnected]
  channel s := by simp [openChannel, h.link]

/-- A connection is closed while two dials are under way, one of a call and one of its loop. Both
come through: the connection is up again, has a link, and has announced a reconnect, and another
closing changes nothing about it. -/
theorem dial_outlives_close :
    let w := ({ connection := { settings := {} } } : Site).after
      (([.startLoop, .report lostReason, .takeFailure, .connect 0, .close 1 false,
        .dialed 0 (some 0), .redialed (some 1), .close 2 true] : List Label).map .own)
    w.connection.returned = [(1, .ok ()), (0, .ok ()), (2, .ok ())] ∧
      w.connection.isClosed = true ∧ w.connection.isConnected = true ∧
      w.connection.link = some 1 ∧ w.connection.reconnects = 1 ∧ w.connection.health = .ok () := by
  exact ⟨rfl, rfl, rfl, rfl, rfl, rfl⟩

variable {now : Nat} {c c' earlier : Connection} {l : Label} {w w' : Site} {e : Event}

/-! ## What a closed connection does -/

theorem Stepped.isClosed (h : Stepped now c l c') (hclosed : c.isClosed = true) :
    c'.isClosed = true := by
  cases h <;> first | exact hclosed | rfl

/-- A closed connection begins no dial: what comes through was under way. -/
theorem Stepped.inFlight (h : Stepped now c l c') (hclosed : c.isClosed = true) :
    (if l.comesThrough then 1 else 0) + c'.inFlight ≤ c.inFlight := by
  cases h with
  | asked hopen | hangsUp hopen | closes hopen =>
    rw [hclosed] at hopen
    cases hopen
  | linked hcall | unlinked hcall =>
    have hlength := List.length_erase_of_mem hcall
    have hpos := List.length_pos_of_mem hcall
    simp [Connection.inFlight, Label.comesThrough, answerTo, install]
    omega
  | takes | wakes =>
    simp [Connection.inFlight, Label.comesThrough, redial_loop, hclosed, LoopPhase.dials]
  | relinked hdialing =>
    simp [Connection.inFlight, Label.comesThrough, install, hdialing, LoopPhase.dials]
    omega
  | rests | begins | leaves =>
    simp [Connection.inFlight, Label.comesThrough, LoopPhase.dials]
  | refused | begun | lost | reported | closedAgain | hungUp =>
    simp [Connection.inFlight, Label.comesThrough, answerTo]

/-- A connection that is down stays so, unless a dial comes through. -/
theorem Down.stepped (h : Down earlier c) (hs : Stepped now c l c')
    (hl : l.comesThrough = false) : Down earlier c' := by
  cases hs with
  | linked | relinked => cases hl
  | refused | asked | unlinked | begins | begun | lost | reported | rests | wakes | leaves
  | closedAgain | hungUp => exact ⟨h.isConnected, h.link, h.reconnects⟩
  | takes => exact ⟨rfl, h.link, h.reconnects⟩
  | hangsUp | closes => exact ⟨rfl, rfl, h.reconnects⟩

/-! ## Histories of a closed connection -/

theorem Happened.isClosed (h : Happened w e w') (hclosed : w.connection.isClosed = true) :
    w'.connection.isClosed = true :=
  h.keeps hclosed fun _ _ _ hs => hs.isClosed hclosed

theorem isClosed_after (h : w.connection.isClosed = true) (es : List Event) :
    (w.after es).connection.isClosed = true :=
  List.foldlRecOn (motive := fun w => w.connection.isClosed = true) es Site.next h
    fun w hw e _ => (happened_next w e).isClosed hw

/-- The dials that come through in a history of a closed connection were under way before it. -/
theorem arrivals_le (h : w.connection.isClosed = true) (es : List Event) :
    w.arrivals es + (w.after es).connection.inFlight ≤ w.connection.inFlight := by
  induction es generalizing w with
  | nil => simp [Site.arrivals, Site.after]
  | cons e rest ih =>
    have hw := happened_next w e
    have hrest := ih (hw.isClosed h)
    have hfirst : w.arrived e + (w.next e).connection.inFlight ≤ w.connection.inFlight := by
      generalize hnext : w.next e = w' at hw
      cases hw with
      | missed hnone => simp [Site.arrived, hnone]
      | took hstep hs => simpa [Site.arrived, hstep, Site.took] using hs.inFlight h
      | around hown hsame =>
        rw [hsame]
        cases e with
        | own l => exact absurd rfl (hown l)
        | pass | subscribe | read => simp [Site.arrived]
    calc w.arrivals (e :: rest) + ((w.next e).after rest).connection.inFlight
        ≤ w.arrived e + (w.next e).connection.inFlight := by rw [Site.arrivals]; omega
      _ ≤ w.connection.inFlight := hfirst

/-- What is kept by every step but the end of a dial that gave a link is kept by histories in which
no dial comes through. -/
theorem after_of_arrivals {P : Connection → Prop}
    (hstep : ∀ now c l c', Stepped now c l c' → l.comesThrough = false → P c → P c')
    (h : P w.connection) {es : List Event} (hes : w.arrivals es = 0) :
    P (w.after es).connection := by
  induction es generalizing w with
  | nil => exact h
  | cons e rest ih =>
    obtain ⟨hfirst, hrest⟩ := Nat.add_eq_zero_iff.1 hes
    refine ih ?_ hrest
    have hw := happened_next w e
    generalize w.next e = w' at hw
    cases hw with
    | missed => exact h
    | around _ hsame => exact hsame ▸ h
    | took htook hs =>
      refine hstep _ _ _ _ hs ?_ h
      simpa [Site.arrived, htook] using hfirst

/-- A connection that is down stays so in every history in which no dial comes through. -/
theorem Down.after (h : Down earlier w.connection) {es : List Event} (hes : w.arrivals es = 0) :
    Down earlier (w.after es).connection :=
  after_of_arrivals (fun _ _ _ _ hs hl hdown => hdown.stepped hs hl) h hes

/-- A connection right after it was closed, and right before. -/
structure Shut (before closed : Connection) : Prop where
  isClosed : closed.isClosed = true
  down : Down before closed
  inFlight : closed.inFlight = before.inFlight

/-- Closing can be done at any time, and brings the connection down. -/
theorem shut_next (hopen : w.connection.isClosed = false) (call : Nat) (linkAlive : Bool) :
    Shut w.connection (w.next (.own (.close call linkAlive))).connection := by
  obtain ⟨c', hstep⟩ : ∃ c', w.connection.step w.now (.close call linkAlive) = some c' := by
    simp only [step, hopen, Bool.false_eq_true, if_false]
    split <;> exact ⟨_, rfl⟩
  have hnext : (w.next (.own (.close call linkAlive))).connection = c' := by
    simp [Site.next, hstep, Site.took]
  rw [hnext]
  cases stepped_of_step hstep with
  | closedAgain hclosed =>
    rw [hopen] at hclosed
    cases hclosed
  | hangsUp | closes => exact ⟨rfl, ⟨rfl, rfl, rfl⟩, rfl⟩

/-- What holds of a connection from the moment on at which it is closed. -/
structure CloseLaw (before closed : Site) : Prop where
  /-- It is closed for good, and whoever asks for a link is told so. -/
  refuses : ∀ es call, (closed.after es).connection.step (closed.after es).now (.connect call) =
    some ((closed.after es).connection.answerTo call (.error closedError))
  /-- No dial begins: those that come through, and those still under way, were under way then. -/
  dials : ∀ es, closed.arrivals es + (closed.after es).connection.inFlight ≤
    before.connection.inFlight
  /-- As long as none of these comes through the connection is down. -/
  down : ∀ es, closed.arrivals es = 0 →
    Down before.connection (closed.after es).connection ∧ OutOfUse (closed.after es).connection
  /-- Where none was under way it is down for good. -/
  final : before.connection.inFlight = 0 → ∀ es,
    Down before.connection (closed.after es).connection ∧ OutOfUse (closed.after es).connection

/-- Whatever happens after a connection is closed, it stays down, unless a dial comes through that
was under way then. -/
theorem close_law (w : Site) (hopen : w.connection.isClosed = false) (call : Nat)
    (linkAlive : Bool) : CloseLaw w (w.next (.own (.close call linkAlive))) := by
  have hshut := shut_next hopen call linkAlive
  generalize w.next (.own (.close call linkAlive)) = closed at hshut
  have hdials : ∀ es, closed.arrivals es + (closed.after es).connection.inFlight ≤
      w.connection.inFlight := fun es => hshut.inFlight ▸ arrivals_le hshut.isClosed es
  have hdown : ∀ es, closed.arrivals es = 0 →
      Down w.connection (closed.after es).connection ∧
        OutOfUse (closed.after es).connection := by
    intro es hes
    have h := hshut.down.after hes
    exact ⟨h, h.outOfUse⟩
  refine ⟨fun es call => ?_, hdials, hdown, fun hnone es => hdown es ?_⟩
  · rw [step, if_pos (isClosed_after hshut.isClosed es)]
  · have h := hdials es
    omega

/-- The law at work: a connection with a loop is closed between two dials. -/
theorem close_law_between_dials :
    let w := ({ connection := { settings := {} } } : Site).after
      (([.connect 0, .dialed 0 (some 0), .startLoop, .lose 0 lostReason, .takeFailure,
        .redialed none] : List Label).map .own)
    w.connection.isClosed = false ∧ CloseLaw w (w.next (.own (.close 1 false))) :=
  ⟨rfl, close_law _ rfl 1 false⟩

end Connection

end MessageBus
