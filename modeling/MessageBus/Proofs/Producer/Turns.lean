import Mathlib.Tactic.Set
import MessageBus.Consumer
import MessageBus.Producer

/-!
# Publishes that take turns

Several publishes can be under way on one producer. Each waits for the lock of the channel, looks
whether the channel in use is still open, and then makes its requests one after the other while the
others wait. `Desk.step` is what happens between two waits; its labels carry what the broker answers
and whether the channel was open, so the runs of a producer are the lists of labels. What one turn
at the lock does, from beginning to end, is `Producer.send` over whatever wire gives the answers.
Main statement: `Desk.after_turn`.
-/

set_option autoImplicit false

namespace MessageBus

/-! ## One turn -/

/-- What a publish sends off. -/
structure Parcel where
  target : PublishTarget
  body : Bytes
  properties : Amqp.Properties

namespace Parcel

def exchangeName (x : Parcel) : String := x.target.exchange.name

/-- The request that declares the exchange of a parcel. -/
def declaration (x : Parcel) : Amqp.Method := .declareExchange x.exchangeName x.target.exchange

/-- The request that sends a parcel off. -/
def dispatch (x : Parcel) : Amqp.Method :=
  .publish x.exchangeName x.target.routingKey x.properties x.body

/-- Whether a parcel can be sent off on a channel without declaring its exchange. -/
def isReady (x : Parcel) (c : ProducerChannel) : Bool :=
  x.exchangeName.isEmpty || c.declared.contains x.exchangeName

theorem isReady_iff {x : Parcel} {c : ProducerChannel} :
    x.isReady c = true ↔ x.exchangeName = "" ∨ x.exchangeName ∈ c.declared := by
  simp [isReady]

end Parcel

/-- What the publish that has the lock waits for. -/
inductive SendPhase where
  /-- A channel is asked for. -/
  | opening
  /-- The exchange is being declared. -/
  | declaring (c : ProducerChannel)
  /-- The message is on its way. -/
  | sending (c : ProducerChannel)

namespace SendPhase

/-- The first request on a channel. -/
def onChannel (x : Parcel) (c : ProducerChannel) : SendPhase :=
  if x.isReady c then sending c else declaring c

/-- The first request of all, given whether the channel in use is open. -/
def first (x : Parcel) (p : Producer) (isOpen : Bool) : SendPhase :=
  match p.channel with
  | some c => if isOpen then onChannel x c else opening
  | none => opening

theorem first_cases (x : Parcel) (p : Producer) (isOpen : Bool) :
    ((isOpen = false ∨ p.channel = none) ∧ first x p isOpen = opening) ∨
      ∃ c, isOpen = true ∧ p.channel = some c ∧ first x p isOpen = onChannel x c := by
  unfold first
  cases hc : p.channel with
  | none => exact .inl ⟨.inr rfl, rfl⟩
  | some c =>
    cases isOpen with
    | false => exact .inl ⟨.inl rfl, rfl⟩
    | true => exact .inr ⟨c, rfl, rfl, rfl⟩

/-- What the broker is asked. -/
def request (x : Parcel) : SendPhase → Request
  | opening => .openChannel
  | declaring c => .on c.channel x.declaration
  | sending c => .on c.channel x.dispatch

theorem onChannel_of_isReady {x : Parcel} {c : ProducerChannel} (hready : x.isReady c = true) :
    onChannel x c = sending c := by
  simp [onChannel, hready]

theorem onChannel_of_not_isReady {x : Parcel} {c : ProducerChannel} (hready : x.isReady c = false) :
    onChannel x c = declaring c := by
  simp [onChannel, hready]

/-- Once the exchange is declared, only the message itself is left to send. -/
theorem onChannel_declared (x : Parcel) (c : ProducerChannel) :
    onChannel x { c with declared := c.declared ++ [x.exchangeName] } =
      sending { c with declared := c.declared ++ [x.exchangeName] } :=
  onChannel_of_isReady (by simp [Parcel.isReady])

theorem request_onChannel (x : Parcel) (c : ProducerChannel) :
    (onChannel x c).request x =
      .on c.channel (if x.isReady c then x.dispatch else x.declaration) := by
  unfold onChannel
  split <;> rfl

/-- What follows from an answer: the end, or a channel to go on with. -/
def answer (x : Parcel) : SendPhase → Reply → Option (Outcome ⊕ ProducerChannel)
  | opening, .opened channel => some (.inr { channel })
  | opening, .noChannel e => some (.inl (.error e))
  | declaring c, .granted => some (.inr { c with declared := c.declared ++ [x.exchangeName] })
  | declaring _, .refused => some (.inl (.error (.exchangeDeclaration x.exchangeName)))
  | sending _, .granted => some (.inl (.ok ()))
  | sending _, .refused => some (.inl (.error Producer.unsentError))
  | _, _ => none

end SendPhase

/-! ## The desk -/

/-- What a publish learns before it goes on. -/
inductive Sight where
  /-- It has the lock, and finds the channel in use open or not. -/
  | found (isOpen : Bool)
  /-- The answer to its request. -/
  | told (request : Request) (reply : Reply)

/-- What one step of a publish was: what it learned, and what it then asked of the broker. -/
structure Desk.Move where
  call : Nat
  parcel : Parcel
  sight : Sight
  asks : Option Request

/-- A producer, with the publishes that are under way on it. -/
structure Desk where
  producer : Producer
  /-- The publishes that wait for the lock, in order. -/
  waiting : List (Nat × Parcel) := []
  /-- The publish that has it. -/
  active : Option (Nat × Parcel × SendPhase) := none
  /-- How many publishes have begun. -/
  calls : Nat := 0
  /-- The results of those that are over. -/
  returned : List (Nat × Outcome) := []
  /-- What they did. -/
  record : List Desk.Move := []

namespace Desk

/-- The steps of the publishes on a producer. -/
inductive Label where
  /-- A publish begins. -/
  | call (x : Parcel)
  /-- The first one that waits takes the lock. -/
  | enter (isOpen : Bool)
  /-- The broker answers. -/
  | reply (r : Reply)
  /-- A publish is given up by its caller. -/
  | giveUp (call : Nat)

/-- A publish goes on with what follows from an answer. -/
def goOn (d : Desk) (i : Nat) (x : Parcel) (sight : Sight) : Outcome ⊕ ProducerChannel → Desk
  | .inl result =>
    { d with
      active := none
      returned := d.returned ++ [(i, result)]
      record := d.record ++ [⟨i, x, sight, none⟩] }
  | .inr c =>
    let phase := SendPhase.onChannel x c
    { d with
      producer := { d.producer with channel := some c }
      active := some (i, x, phase)
      record := d.record ++ [⟨i, x, sight, some (phase.request x)⟩] }

/-- One step, if it can be taken. -/
def step (d : Desk) : Label → Option Desk
  | .call x => some { d with calls := d.calls + 1, waiting := d.waiting ++ [(d.calls, x)] }
  | .enter isOpen =>
    match d.active, d.waiting with
    | none, (i, x) :: waiting =>
      let phase := SendPhase.first x d.producer isOpen
      some { d with
        waiting
        active := some (i, x, phase)
        record := d.record ++ [⟨i, x, .found isOpen, some (phase.request x)⟩] }
    | _, _ => none
  | .reply r =>
    match d.active with
    | some (i, x, phase) => (phase.answer x r).map (d.goOn i x (.told (phase.request x) r))
    | none => none
  | .giveUp i =>
    some { d with
      waiting := d.waiting.filter (·.1 != i)
      active := d.active.filter (·.1 != i) }

/-- The desk after some steps; one that cannot be taken changes nothing. -/
def after (d : Desk) (ls : List Label) : Desk := ls.foldl (fun d l => (d.step l).getD d) d

/-- What holds at first and is kept by every step holds after any steps. -/
theorem after_induction {motive : Desk → Prop} {d : Desk} (hd : motive d)
    (hstep : ∀ {d d' : Desk} {l : Label}, motive d → d.step l = some d' → motive d')
    (ls : List Label) : motive (d.after ls) := by
  refine List.foldlRecOn (motive := motive) ls _ hd fun d hd l _ => ?_
  cases hl : d.step l with
  | none => exact hd
  | some d' => exact hstep hd hl

/-- All that a step can be. -/
theorem step_cases {d d' : Desk} {l : Label} (h : d.step l = some d') :
    (∃ x, d' = { d with calls := d.calls + 1, waiting := d.waiting ++ [(d.calls, x)] }) ∨
    (∃ isOpen i x waiting, d.active = none ∧ d.waiting = (i, x) :: waiting ∧
      d' = { d with
        waiting
        active := some (i, x, SendPhase.first x d.producer isOpen)
        record := d.record ++ [⟨i, x, .found isOpen,
          some ((SendPhase.first x d.producer isOpen).request x)⟩] }) ∨
    (∃ r i x phase next, d.active = some (i, x, phase) ∧ phase.answer x r = some next ∧
      d' = d.goOn i x (.told (phase.request x) r) next) ∨
    ∃ i, d' = { d with
      waiting := d.waiting.filter (·.1 != i)
      active := d.active.filter (·.1 != i) } := by
  cases l with
  | call x => exact .inl ⟨x, (Option.some.inj h).symm⟩
  | enter isOpen =>
    simp only [step] at h
    split at h
    · next i x waiting hactive hwaiting =>
      exact .inr (.inl ⟨isOpen, i, x, waiting, hactive, hwaiting, (Option.some.inj h).symm⟩)
    · cases h
  | reply r =>
    simp only [step] at h
    split at h
    · next i x phase hactive =>
      obtain ⟨next, hnext, rfl⟩ := Option.map_eq_some_iff.1 h
      exact .inr (.inr (.inl ⟨r, i, x, phase, next, hactive, hnext, rfl⟩))
    · cases h
  | giveUp i => exact .inr (.inr (.inr ⟨i, (Option.some.inj h).symm⟩))

end Desk

/-! ## A turn is what `Producer.send` does -/

namespace Wire

variable {σ : Type} (w : Wire σ)

/-- The answer to a request. -/
def answer (s : σ) : Request → Reply × σ
  | .openChannel =>
    match w.openChannel s with
    | (.ok channel, s) => (.opened channel, s)
    | (.error e, s) => (.noChannel e, s)
  | .on channel method =>
    let (granted, s) := w.request s channel method
    (if granted then .granted else .refused, s)

/-- The answers to some requests, one after the other. -/
def answers (s : σ) : List Request → List Reply × σ
  | [] => ([], s)
  | r :: rs =>
    let (reply, s) := w.answer s r
    let (replies, s) := answers s rs
    (reply :: replies, s)

/-- Whether the channel in use is open, as the publish that takes the lock finds it. -/
def finds (s : σ) (p : Producer) : Bool := p.channel.any fun c => w.isOpen s c.channel

end Wire

namespace Desk

variable {σ : Type} {w : Wire σ} {s s' : σ} {d : Desk} {i : Nat} {x : Parcel} {phase : SendPhase}
  {reply : Reply}

/-- A publish that is in a phase comes to an end when a wire gives the answers: with a result, and
with the producer and the wire like that. -/
def Serves (w : Wire σ) (s : σ) (d : Desk) (i : Nat) (x : Parcel) (phase : SendPhase)
    (sent : Outcome × Producer × σ) : Prop :=
  ∃ (requests : List Request) (moves : List Move),
    let served := w.answers s (phase.request x :: requests)
    served.2 = sent.2.2 ∧ moves.filterMap Move.asks = requests ∧
      after { d with active := some (i, x, phase) } (served.1.map .reply) = { d with
        producer := sent.2.1
        active := none
        returned := d.returned ++ [(i, sent.1)]
        record := d.record ++ moves }

/-- ... at once, -/
theorem serves_over {result : Outcome} (hwire : w.answer s (phase.request x) = (reply, s'))
    (hanswer : phase.answer x reply = some (.inl result)) :
    Serves w s d i x phase (result, d.producer, s') := by
  refine ⟨[], [⟨i, x, .told (phase.request x) reply, none⟩], ?_, rfl, ?_⟩
  · simp only [Wire.answers, hwire]
  · simp [Wire.answers, hwire, after, step, hanswer, goOn]

/-- ... or after the requests that follow. -/
theorem serves_goOn {c : ProducerChannel} {sent : Outcome × Producer × σ}
    (hwire : w.answer s (phase.request x) = (reply, s'))
    (hanswer : phase.answer x reply = some (.inr c))
    (hserves : Serves w s' (d.goOn i x (.told (phase.request x) reply) (.inr c)) i x
      (.onChannel x c) sent) :
    Serves w s d i x phase sent := by
  obtain ⟨requests, moves, hwire', hmoves, hafter⟩ := hserves
  refine ⟨(SendPhase.onChannel x c).request x :: requests,
    ⟨i, x, .told (phase.request x) reply, some ((SendPhase.onChannel x c).request x)⟩ :: moves,
    ?_, ?_, ?_⟩
  · rw [← hwire']
    simp only [Wire.answers, hwire]
  · simp [hmoves]
  · simp only [Wire.answers, hwire, List.map_cons, after, List.foldl_cons, step, hanswer]
      at hafter ⊢
    simpa [goOn] using hafter

/-- What `Producer.send` does once it has a channel. -/
def sendOn (w : Wire σ) (p : Producer) (x : Parcel) (c : ProducerChannel) (s : σ) :
    Outcome × Producer × σ :=
  let (declared, p, s) := p.ensureExchange w c x.target.exchange s
  match declared with
  | .error e => (.error e, p, s)
  | .ok _ =>
    let (granted, s) := w.request s c.channel x.dispatch
    (if granted then .ok () else .error Producer.unsentError, p, s)

theorem send_eq (w : Wire σ) (p : Producer) (x : Parcel) (s : σ) :
    p.send w x.target x.body x.properties s =
      match p.ensureChannel w s with
      | (.ok c, p, s) => sendOn w p x c s
      | (.error e, p, s) => (.error e, p, s) := by
  unfold Producer.send
  generalize p.ensureChannel w s = r
  obtain ⟨_ | c, p, s⟩ := r <;> rfl

/-- What `Producer.send` does with an open channel, ... -/
theorem send_of_isOpen {p : Producer} {c : ProducerChannel} (hc : p.channel = some c)
    (hopen : w.isOpen s c.channel = true) :
    p.send w x.target x.body x.properties s = sendOn w p x c s := by
  have hensured : p.ensureChannel w s = (.ok c, p, s) := by
    unfold Producer.ensureChannel
    rw [hc, Option.filter_some, if_pos hopen]
  rw [send_eq, hensured]

/-- ... and without one. -/
theorem send_of_not_finds {p : Producer} (hfinds : w.finds s p = false) :
    p.send w x.target x.body x.properties s =
      match w.openChannel s with
      | (.ok channel, s) => sendOn w { p with channel := some { channel } } x { channel } s
      | (.error e, s) => (.error e, p, s) := by
  have hnone : (p.channel.filter fun c => w.isOpen s c.channel) = none := by
    cases hc : p.channel with
    | none => rfl
    | some c =>
      simp only [Wire.finds, hc, Option.any_some] at hfinds
      simp [hfinds]
  rw [send_eq]
  unfold Producer.ensureChannel
  rw [hnone]
  generalize w.openChannel s = r
  obtain ⟨_ | channel, s⟩ := r <;> rfl

theorem serves_sending (w : Wire σ) (s : σ) (d : Desk) (i : Nat) (x : Parcel)
    (c : ProducerChannel) :
    let sent := w.request s c.channel x.dispatch
    Serves w s d i x (.sending c)
      (if sent.1 then .ok () else .error Producer.unsentError, d.producer, sent.2) := by
  intro sent
  have hwire : w.answer s ((SendPhase.sending c).request x) =
      (if sent.1 then .granted else .refused, sent.2) := rfl
  refine serves_over hwire ?_
  cases sent.1 <;> rfl

theorem sendOn_of_isReady (w : Wire σ) (p : Producer) {c : ProducerChannel} (s : σ)
    (hready : x.isReady c = true) :
    sendOn w p x c s =
      let sent := w.request s c.channel x.dispatch
      (if sent.1 then .ok () else .error Producer.unsentError, p, sent.2) := by
  have hready : (x.target.exchange.name.isEmpty || c.declared.contains x.target.exchange.name) =
      true := hready
  unfold sendOn Producer.ensureExchange
  rw [if_pos hready]

theorem sendOn_of_not_isReady (w : Wire σ) (p : Producer) {c : ProducerChannel} (s : σ)
    (hready : x.isReady c = false) :
    sendOn w p x c s =
      let declared := w.request s c.channel x.declaration
      if declared.1 then
        let sent := w.request declared.2 c.channel x.dispatch
        (if sent.1 then .ok () else .error Producer.unsentError,
          { p with channel := some { c with declared := c.declared ++ [x.exchangeName] } }, sent.2)
      else (.error (.exchangeDeclaration x.exchangeName), p, declared.2) := by
  have hready : (x.target.exchange.name.isEmpty || c.declared.contains x.target.exchange.name) =
      false := hready
  have hdeclaration : w.request s c.channel x.declaration =
      w.request s c.channel (.declareExchange x.target.exchange.name x.target.exchange) := rfl
  unfold sendOn Producer.ensureExchange
  rw [if_neg (by simp only [hready, Bool.false_eq_true, not_false_eq_true]), hdeclaration]
  generalize w.request s c.channel _ = declared
  obtain ⟨_ | _, s⟩ := declared <;> rfl

/-- From a channel on, a turn is what `Producer.send` does with it. -/
theorem serves_onChannel (w : Wire σ) (s : σ) (d : Desk) (i : Nat) (x : Parcel)
    (c : ProducerChannel) : Serves w s d i x (.onChannel x c) (sendOn w d.producer x c s) := by
  cases hready : x.isReady c with
  | true =>
    rw [SendPhase.onChannel_of_isReady hready, sendOn_of_isReady w _ s hready]
    exact serves_sending w s d i x c
  | false =>
    rw [SendPhase.onChannel_of_not_isReady hready, sendOn_of_not_isReady w _ s hready]
    have hwire : w.answer s ((SendPhase.declaring c).request x) =
        (if (w.request s c.channel x.declaration).1 then .granted else .refused,
          (w.request s c.channel x.declaration).2) := rfl
    generalize w.request s c.channel x.declaration = declared at hwire
    obtain ⟨_ | _, s'⟩ := declared
    · exact serves_over hwire rfl
    · refine serves_goOn hwire rfl ?_
      rw [SendPhase.onChannel_declared]
      exact serves_sending ..

/-- Without a channel that is open, a turn begins by opening one. -/
theorem serves_opening (w : Wire σ) (s : σ) (d : Desk) (i : Nat) (x : Parcel) :
    Serves w s d i x .opening
      (match w.openChannel s with
        | (.ok channel, s) =>
          sendOn w { d.producer with channel := some { channel } } x { channel } s
        | (.error e, s) => (.error e, d.producer, s)) := by
  cases hopen : w.openChannel s with
  | mk opened s' =>
    cases opened with
    | error e =>
      have hwire : w.answer s (SendPhase.opening.request x) = (.noChannel e, s') := by
        simp [SendPhase.request, Wire.answer, hopen]
      exact serves_over hwire rfl
    | ok channel =>
      have hwire : w.answer s (SendPhase.opening.request x) = (.opened channel, s') := by
        simp [SendPhase.request, Wire.answer, hopen]
      exact serves_goOn hwire rfl (serves_onChannel w s' _ i x { channel })

/-- A whole turn is what `Producer.send` does. -/
theorem serves_first (w : Wire σ) (s : σ) (d : Desk) (i : Nat) (x : Parcel) :
    Serves w s d i x (.first x d.producer (w.finds s d.producer))
      (d.producer.send w x.target x.body x.properties s) := by
  rcases SendPhase.first_cases x d.producer (w.finds s d.producer) with
    ⟨hnone, hphase⟩ | ⟨c, hopen, hc, hphase⟩
  · have hfinds : w.finds s d.producer = false := by
      rcases hnone with hclosed | hnone
      · exact hclosed
      · rw [Wire.finds, hnone, Option.any_none]
    rw [hphase, send_of_not_finds hfinds]
    exact serves_opening w s d i x
  · rw [Wire.finds, hc, Option.any_some] at hopen
    rw [hphase, send_of_isOpen hc hopen]
    exact serves_onChannel w s d i x c

/-- One turn at the lock, from beginning to end, is what `Producer.send` does over the wire that
gives the answers. -/
theorem after_turn (w : Wire σ) (s : σ) {waiting : List (Nat × Parcel)} (hactive : d.active = none)
    (hwaiting : d.waiting = (i, x) :: waiting) :
    let sent := d.producer.send w x.target x.body x.properties s
    ∃ (requests : List Request) (moves : List Move),
      let served := w.answers s requests
      served.2 = sent.2.2 ∧ moves.filterMap Move.asks = requests ∧
        d.after (.enter (w.finds s d.producer) :: served.1.map .reply) = { d with
          waiting
          producer := sent.2.1
          returned := d.returned ++ [(i, sent.1)]
          record := d.record ++ moves } := by
  intro sent
  set phase := SendPhase.first x d.producer (w.finds s d.producer) with hphase
  set entered : Desk := { d with
    waiting
    record := d.record ++ [⟨i, x, .found (w.finds s d.producer), some (phase.request x)⟩] }
  obtain ⟨requests, moves, hwire, hmoves, hafter⟩ := serves_first w s entered i x
  refine ⟨phase.request x :: requests,
    ⟨i, x, .found (w.finds s d.producer), some (phase.request x)⟩ :: moves, hwire, ?_, ?_⟩
  · simp [hmoves]
  · have henter : d.step (.enter (w.finds s d.producer)) =
        some { entered with active := some (i, x, phase) } := by
      simp only [step, hactive, hwaiting]
      rfl
    rw [after, List.foldl_cons, henter, Option.getD_some]
    refine hafter.trans ?_
    simp [entered, sent, hactive]

end Desk

end MessageBus
