import MessageBus.Proofs.Producer.Envelope
import MessageBus.Proofs.Producer.Record

/-!
# The channel of a producer

However publishes interleave and whatever fails, a producer keeps one channel, and no message goes
out to an exchange that was not declared on the channel it goes out on. What a publish can do is
said by the record of the desk; that one which failed does not go on is said by the numbers of the
publishes. Main statement: `cache_law`.
-/

set_option autoImplicit false

namespace MessageBus

namespace Desk

/-! ## Who moves -/

namespace Move

/-- A publish sends its message off. -/
def Publishes (m : Move) : Prop :=
  ∃ channel name key properties body,
    m.asks = some (.on channel (.publish name key properties body))

/-- A publish learns that its channel was not opened, or its exchange not declared. -/
def Fails (m : Move) : Prop :=
  (∃ e, m.sight = .told .openChannel (.noChannel e)) ∨
    ∃ channel name exchange, m.sight = .told (.on channel (.declareExchange name exchange)) .refused

end Move

/-- If two moves are of one publish, the earlier one asked for something; and if it sent the message
off, the later one learns whether that was sent. -/
def Move.Precedes (m m' : Move) : Prop :=
  m.call = m'.call → m.asks ≠ none ∧
    (m.Publishes → ∃ channel reply, m'.sight = .told (.on channel m'.parcel.dispatch) reply)

theorem sending_of_publishes {x : Parcel} {phase : SendPhase} {i : Nat} {sight : Sight}
    (h : Move.Publishes ⟨i, x, sight, some (phase.request x)⟩) : ∃ c, phase = .sending c := by
  obtain ⟨channel, name, key, properties, body, h⟩ := h
  cases phase with
  | opening => cases h
  | declaring c => cases h
  | sending c => exact ⟨c, rfl⟩

/-- The publishes that are under way have numbers of their own, and those that are over do not move
again. -/
structure Numbered (d : Desk) : Prop where
  nodup : (d.waiting.map Prod.fst).Nodup
  waiting : ∀ i ∈ d.waiting.map Prod.fst, i < d.calls ∧ ∀ m ∈ d.record, m.call ≠ i
  active : ∀ i x phase, d.active = some (i, x, phase) →
    i < d.calls ∧ i ∉ d.waiting.map Prod.fst ∧
      ∀ m ∈ d.record, m.call = i → m.asks ≠ none ∧ (m.Publishes → ∃ c, phase = .sending c)
  record : ∀ m ∈ d.record, m.call < d.calls
  pairs : d.record.Pairwise Move.Precedes

namespace Numbered

variable {d d' : Desk}

theorem call (h : Numbered d) (x : Parcel) :
    Numbered { d with calls := d.calls + 1, waiting := d.waiting ++ [(d.calls, x)] } where
  nodup := by
    rw [List.map_append, List.nodup_append]
    refine ⟨h.nodup, List.pairwise_singleton _ _, ?_⟩
    rintro i hi _ hlast rfl
    have hlt := (h.waiting i hi).1
    have heq : i = d.calls := by simpa using hlast
    omega
  waiting i hi := by
    rw [List.map_append, List.mem_append] at hi
    rcases hi with hi | hi
    · exact ⟨Nat.lt_succ_of_lt (h.waiting i hi).1, (h.waiting i hi).2⟩
    · obtain rfl : i = d.calls := by simpa using hi
      exact ⟨Nat.lt_succ_self _, fun m hm => Nat.ne_of_lt (h.record m hm)⟩
  active i x phase hactive := by
    obtain ⟨hlt, hnot, hmoves⟩ := h.active i x phase hactive
    refine ⟨Nat.lt_succ_of_lt hlt, ?_, hmoves⟩
    rw [List.map_append, List.mem_append, not_or]
    exact ⟨hnot, by simpa using Nat.ne_of_lt hlt⟩
  record m hm := Nat.lt_succ_of_lt (h.record m hm)
  pairs := h.pairs

theorem enter (h : Numbered d) {i : Nat} {x : Parcel} {waiting : List (Nat × Parcel)}
    (hwaiting : d.waiting = (i, x) :: waiting) (sight : Sight) (phase : SendPhase) :
    Numbered { d with
      waiting
      active := some (i, x, phase)
      record := d.record ++ [⟨i, x, sight, some (phase.request x)⟩] } := by
  obtain ⟨hnot, hnodup⟩ : i ∉ waiting.map Prod.fst ∧ (waiting.map Prod.fst).Nodup := by
    simpa only [hwaiting, List.map_cons, List.nodup_cons] using h.nodup
  obtain ⟨hlt, hnew⟩ := h.waiting i (by simp [hwaiting])
  constructor
  case nodup => exact hnodup
  case waiting =>
    intro j hj
    obtain ⟨hltj, hnewj⟩ := h.waiting j (by rw [hwaiting]; exact List.mem_cons_of_mem _ hj)
    refine ⟨hltj, List.forall_mem_append.2 ⟨hnewj, List.forall_mem_singleton.2 ?_⟩⟩
    rintro rfl
    exact hnot hj
  case active =>
    intro j y phase' hactive
    cases hactive
    refine ⟨hlt, hnot, List.forall_mem_append.2
      ⟨fun m hm hcall => absurd hcall (hnew m hm), List.forall_mem_singleton.2 fun _ => ?_⟩⟩
    exact ⟨Option.some_ne_none _, sending_of_publishes⟩
  case record =>
    exact List.forall_mem_append.2 ⟨h.record, List.forall_mem_singleton.2 hlt⟩
  case pairs =>
    rw [List.pairwise_append]
    refine ⟨h.pairs, List.pairwise_singleton _ _, fun m hm => List.forall_mem_singleton.2 ?_⟩
    exact fun hcall => absurd hcall (hnew m hm)

theorem reply (h : Numbered d) {i : Nat} {x : Parcel} {phase : SendPhase} {r : Reply}
    {next : Outcome ⊕ ProducerChannel} (hactive : d.active = some (i, x, phase))
    (hanswer : phase.answer x r = some next) :
    Numbered (d.goOn i x (.told (phase.request x) r) next) := by
  obtain ⟨hlt, hnot, hmoves⟩ := h.active i x phase hactive
  -- what is not about the publish that has the lock does not depend on what it does next
  have hwaiting (asks : Option Request) : ∀ j ∈ d.waiting.map Prod.fst, j < d.calls ∧
      ∀ m ∈ d.record ++ [⟨i, x, .told (phase.request x) r, asks⟩], m.call ≠ j := by
    intro j hj
    refine ⟨(h.waiting j hj).1,
      List.forall_mem_append.2 ⟨(h.waiting j hj).2, List.forall_mem_singleton.2 ?_⟩⟩
    rintro rfl
    exact hnot hj
  have hrecord (asks : Option Request) :
      ∀ m ∈ d.record ++ [⟨i, x, .told (phase.request x) r, asks⟩], m.call < d.calls :=
    List.forall_mem_append.2 ⟨h.record, List.forall_mem_singleton.2 hlt⟩
  have hpairs (asks : Option Request) :
      List.Pairwise Move.Precedes
        (d.record ++ [⟨i, x, .told (phase.request x) r, asks⟩]) := by
    rw [List.pairwise_append]
    refine ⟨h.pairs, List.pairwise_singleton _ _, fun m hm => List.forall_mem_singleton.2 ?_⟩
    intro hcall
    refine ⟨(hmoves m hm hcall).1, fun hpublishes => ?_⟩
    obtain ⟨c, rfl⟩ := (hmoves m hm hcall).2 hpublishes
    exact ⟨c.channel, r, rfl⟩
  cases next with
  | inl result =>
    refine ⟨h.nodup, hwaiting none, fun _ _ _ hactive => ?_, hrecord none, hpairs none⟩
    cases hactive
  | inr c =>
    refine ⟨h.nodup, hwaiting _, fun j y phase' hactive' => ?_, hrecord _, hpairs _⟩
    cases hactive'
    refine ⟨hlt, hnot, List.forall_mem_append.2 ⟨fun m hm hcall => ?_, ?_⟩⟩
    · refine ⟨(hmoves m hm hcall).1, fun hpublishes => ?_⟩
      -- once the message was sent off, any answer is the end
      obtain ⟨c, rfl⟩ := (hmoves m hm hcall).2 hpublishes
      cases r <;> cases hanswer
    · exact List.forall_mem_singleton.2 fun _ => ⟨Option.some_ne_none _, sending_of_publishes⟩

theorem giveUp (h : Numbered d) (i : Nat) :
    Numbered { d with
      waiting := d.waiting.filter (·.1 != i)
      active := d.active.filter (·.1 != i) } := by
  have hsub : ((d.waiting.filter (·.1 != i)).map Prod.fst).Sublist (d.waiting.map Prod.fst) :=
    List.filter_sublist.map _
  refine ⟨h.nodup.sublist hsub, fun j hj => h.waiting j (hsub.subset hj),
    fun j x phase hactive => ?_, h.record, h.pairs⟩
  obtain ⟨hlt, hnot, hmoves⟩ := h.active j x phase (Option.eq_some_of_filter_eq_some hactive)
  exact ⟨hlt, fun hj => hnot (hsub.subset hj), hmoves⟩

theorem step (h : Numbered d) {l : Label} (hl : d.step l = some d') : Numbered d' := by
  rcases step_cases hl with ⟨x, rfl⟩ | ⟨isOpen, i, x, waiting, -, hwaiting, rfl⟩ |
    ⟨r, i, x, phase, next, hactive, hanswer, rfl⟩ | ⟨i, rfl⟩
  · exact h.call x
  · exact h.enter hwaiting _ _
  · exact h.reply hactive hanswer
  · exact h.giveUp i

end Numbered

/-- Whoever learns of a failure returns an error. -/
def Honest (d : Desk) : Prop := ∀ m ∈ d.record, m.Fails → ∃ e, (m.call, .error e) ∈ d.returned

/-- A failure is the end of a publish, and its error the result. -/
theorem error_of_fails {i : Nat} {x : Parcel} {phase : SendPhase} {r : Reply}
    {asks : Option Request} {next : Outcome ⊕ ProducerChannel}
    (hanswer : phase.answer x r = some next)
    (hfails : Move.Fails ⟨i, x, .told (phase.request x) r, asks⟩) :
    ∃ e, next = .inl (.error e) := by
  rcases hfails with ⟨e, hsight⟩ | ⟨channel, name, exchange, hsight⟩
  · obtain ⟨-, rfl⟩ := Sight.told.inj hsight
    cases phase with
    | opening => cases hanswer; exact ⟨_, rfl⟩
    | declaring c => cases hanswer
    | sending c => cases hanswer
  · obtain ⟨-, rfl⟩ := Sight.told.inj hsight
    cases phase with
    | opening => cases hanswer
    | declaring c => cases hanswer; exact ⟨_, rfl⟩
    | sending c => cases hanswer; exact ⟨_, rfl⟩

/-- ... after which nothing is asked. -/
theorem asks_of_fails {record : List Move} {m : Move} (h : Follows record m) (hfails : m.Fails) :
    m.asks = none := by
  rcases hfails with ⟨e, hsight⟩ | ⟨channel, name, exchange, hsight⟩
  · cases h <;> cases hsight
    rfl
  · cases h <;> cases hsight
    rfl

/-- A publish that has failed sends nothing off, before or after. -/
theorem Numbered.silent {d : Desk} (h : Numbered d) (hlegal : Legal d.record) {m m' : Move}
    (hm : m ∈ d.record) (hfails : m.Fails) (hm' : m' ∈ d.record) (hcall : m'.call = m.call) :
    ¬ m'.Publishes := by
  intro hpublishes
  obtain ⟨before, after, hsplit⟩ := List.append_of_mem hm
  have hend : m.asks = none := asks_of_fails (hlegal before m after hsplit) hfails
  have hpairs := h.pairs
  rw [hsplit] at hm' hpairs
  obtain ⟨-, hafter, hbefore⟩ := List.pairwise_append.1 hpairs
  rcases List.mem_append.1 hm' with hm' | hm'
  · -- the message would have been sent off before, but then there is no failure to hear of
    obtain ⟨channel, reply, htold⟩ := (hbefore m' hm' m List.mem_cons_self hcall).2 hpublishes
    rcases hfails with ⟨e, hsight⟩ | ⟨channel, name, exchange, hsight⟩ <;>
      rw [htold] at hsight <;> cases hsight
  · rcases List.mem_cons.1 hm' with rfl | hm'
    · obtain ⟨channel, name, key, properties, body, hasks⟩ := hpublishes
      rw [hend] at hasks
      cases hasks
    · exact ((List.pairwise_cons.1 hafter).1 m' hm' hcall.symm).1 hend

theorem Honest.step {d d' : Desk} (h : Honest d) {l : Label} (hl : d.step l = some d') :
    Honest d' := by
  rcases step_cases hl with ⟨x, rfl⟩ | ⟨isOpen, i, x, waiting, -, -, rfl⟩ |
    ⟨r, i, x, phase, next, -, hanswer, rfl⟩ | ⟨i, rfl⟩
  · exact h
  · refine List.forall_mem_append.2 ⟨h, List.forall_mem_singleton.2 ?_⟩
    rintro (⟨e, hsight⟩ | ⟨channel, name, exchange, hsight⟩) <;> cases hsight
  · cases next with
    | inl result =>
      refine List.forall_mem_append.2 ⟨fun m hm hfails => ?_, List.forall_mem_singleton.2 ?_⟩
      · obtain ⟨e, he⟩ := h m hm hfails
        exact ⟨e, List.mem_append_left _ he⟩
      · intro hfails
        obtain ⟨e, he⟩ := error_of_fails hanswer hfails
        cases he
        exact ⟨e, List.mem_append_right _ (List.mem_singleton.2 rfl)⟩
    | inr c =>
      refine List.forall_mem_append.2 ⟨h, List.forall_mem_singleton.2 fun hfails => ?_⟩
      obtain ⟨e, he⟩ := error_of_fails hanswer hfails
      cases he
  · exact h

end Desk

/-! ## Messages are sent as parcels -/

namespace Producer

variable {w : Wire Scene} {context : TraceContext} {message : Message} {metadata : Metadata}
  {exchange : Option String} {s : Scene}

/-- A message that cannot be written is not sent at all. -/
theorem publish_of_error (p : Producer) {e : BusError} (hencoded : serialize message = .error e) :
    p.publish w context message metadata exchange s =
      (.error e, p, (serializeLog message).foldl Scene.log s) := by
  unfold publish
  rw [hencoded]

/-- For the broker and for the producer, to publish a message is to send it to its target. -/
theorem publish_of_ok (p : Producer) {encoded : Encoded}
    (hencoded : serialize message = .ok encoded) :
    ∃ (properties : Amqp.Properties) (s₀ : Scene), s₀.broker = s.broker ∧
      let sent := p.send w (p.target message.name exchange) encoded.data properties s₀
      let published := p.publish w context message metadata exchange s
      published.1 = sent.1 ∧ published.2.1 = sent.2.1 ∧
        published.2.2.broker = sent.2.2.broker := by
  refine ⟨p.propertiesFor context message metadata exchange encoded.contentType s, { s with
    recorder := (s.recorder.start (.producer tracingScope context
      (p.target message.name exchange).exchange.name
      (p.target message.name exchange).routingKey)).1
    taken := s.taken + 2 }, rfl, ?_⟩
  intro sent published
  unfold published publish
  rw [hencoded]
  dsimp only
  split
  · next e he => exact ⟨he.symm, rfl, rfl⟩
  · next he => exact ⟨he.symm, rfl, broker_notify ..⟩

end Producer

/-! ## The law -/

open Desk in
/-- What a producer does with its channel, as the record of its publishes shows. -/
structure CacheLaw (p : Producer) (d : Desk) : Prop where
  /-- It holds the channel that was opened last, and is otherwise as it was made. -/
  held : d.producer = { p with channel := heldAfter d.record }
  /-- A channel is opened when a publish finds none that is open, and only then. -/
  opens : ∀ before m after, d.record = before ++ m :: after →
    (m.asks = some .openChannel ↔
      ∃ isOpen, m.sight = .found isOpen ∧ (isOpen = false ∨ heldAfter before = none))
  /-- All else is asked on the channel that is held, for the message of the publish that asks. -/
  onHeld : ∀ before m after, d.record = before ++ m :: after →
    ∀ channel method, m.asks = some (.on channel method) →
      (heldAfter (before ++ [m])).map ProducerChannel.channel = some channel ∧
        (method = m.parcel.dispatch ∨ method = m.parcel.declaration)
  /-- A message goes out to an exchange only on a channel on which it was declared. -/
  publishes : ∀ before m after, d.record = before ++ m :: after →
    ∀ channel name key properties body,
      m.asks = some (.on channel (.publish name key properties body)) →
        name ≠ "" → HasDeclared (before ++ [m]) channel name
  /-- What has no name or is declared already is not declared. -/
  declares : ∀ before m after, d.record = before ++ m :: after →
    ∀ channel name exchange, m.asks = some (.on channel (.declareExchange name exchange)) →
      name ≠ "" ∧ ¬ HasDeclared (before ++ [m]) channel name
  /-- So on one channel an exchange is declared at most once. -/
  once : ∀ before m after, d.record = before ++ m :: after →
    ∀ channel name, m.declared? = some (channel, name) →
      ∀ channel', ¬ HasDeclared before channel' name
  /-- A publish that has a channel, old or new, first declares the exchange if it has a name and is
  not declared there. -/
  declaresFirst : ∀ before m after, d.record = before ++ m :: after →
    (m.sight = .found true ∨ m.opened?.isSome) →
      ∀ c, heldAfter (before ++ [m]) = some c → m.parcel.exchangeName ≠ "" →
        ¬ HasDeclared (before ++ [m]) c.channel m.parcel.exchangeName →
          m.asks = some (.on c.channel m.parcel.declaration)
  /-- A declaration that failed is tried again by the next publish to the exchange. -/
  retries : ∀ before m between m' after, d.record = before ++ m :: (between ++ m' :: after) →
    ∀ channel name exchange,
      m.sight = .told (.on channel (.declareExchange name exchange)) .refused →
      (∀ m'' ∈ between, m''.opened? = none ∧ m''.declared? ≠ some (channel, name)) →
        m'.sight = .found true → m'.parcel.exchangeName = name →
          m'.asks = some (.on channel m'.parcel.declaration)
  /-- A publish hears what it has just asked for. -/
  hears : ∀ before m after, d.record = before ++ m :: after →
    ∀ r reply, m.sight = .told r reply → Asked before m.call m.parcel r
  /-- A publish whose channel is not opened, or whose exchange is not declared, fails, and never
  sends its message off. -/
  failed : ∀ m ∈ d.record, m.Fails → (∃ e, (m.call, .error e) ∈ d.returned) ∧
    ∀ m' ∈ d.record, m'.call = m.call → ¬ m'.Publishes
  /-- What the publish that is next does with the lock is what `Producer.send` does. -/
  turn : d.active = none → ∀ i x waiting, d.waiting = (i, x) :: waiting →
    ∀ (σ : Type) (w : Wire σ) (s : σ),
      let sent := d.producer.send w x.target x.body x.properties s
      ∃ (requests : List Request) (moves : List Move),
        let served := w.answers s requests
        served.2 = sent.2.2 ∧ moves.filterMap Move.asks = requests ∧
          d.after (.enter (w.finds s d.producer) :: served.1.map .reply) = { d with
            waiting
            producer := sent.2.1
            returned := d.returned ++ [(i, sent.1)]
            record := d.record ++ moves }
  /-- And to publish a message is to send it to the target of its type, unless it cannot be
  written. -/
  messages : ∀ (w : Wire Scene) context message metadata exchange s,
    let published := d.producer.publish w context message metadata exchange s
    (∀ e, serialize message = .error e →
      published.1 = .error e ∧ published.2.1 = d.producer ∧ published.2.2.broker = s.broker) ∧
    ∀ encoded, serialize message = .ok encoded →
      ∃ (properties : Amqp.Properties) (s₀ : Scene), s₀.broker = s.broker ∧
        let sent := d.producer.send w (p.target message.name exchange) encoded.data properties s₀
        published.1 = sent.1 ∧ published.2.1 = sent.2.1 ∧
          published.2.2.broker = sent.2.2.broker

open Desk in
/-- A desk that is as its record says obeys the law. -/
theorem cacheLaw_of_sound {p : Producer} {d : Desk} (hsound : d.Sound p) (hnumbered : d.Numbered)
    (hhonest : d.Honest) : CacheLaw p d := by
  have hlegal := hsound.legal
  constructor
  case held => exact hsound.producer
  case opens => exact fun before m after hsplit => (hlegal before m after hsplit).openChannel_iff
  case onHeld =>
    intro before m after hsplit channel method hasks
    obtain ⟨c, hc, rfl, hmethod⟩ := (hlegal before m after hsplit).on_held hasks
    refine ⟨by rw [hc, Option.map_some], ?_⟩
    rw [hmethod]
    split
    · exact .inl rfl
    · exact .inr rfl
  case publishes =>
    intro before m after hsplit channel name key properties body hasks hname
    obtain ⟨c, hc, rfl, hmethod⟩ := (hlegal before m after hsplit).on_held hasks
    split at hmethod
    · next hready =>
      cases hmethod
      exact (((hlegal.through hsplit).isReady_iff hc).1 hready).resolve_left hname
    · cases hmethod
  case declares =>
    intro before m after hsplit channel name exchange hasks
    obtain ⟨c, hc, rfl, hmethod⟩ := (hlegal before m after hsplit).on_held hasks
    split at hmethod
    · cases hmethod
    · next hready =>
      cases hmethod
      exact not_or.1 fun h => hready (((hlegal.through hsplit).isReady_iff hc).2 h)
  case once =>
    intro before m after hsplit channel name hdeclared channel' hbefore
    obtain ⟨exchange, htold⟩ := declared?_eq_some.1 hdeclared
    obtain ⟨c, hc, -, -, hnew⟩ := (hlegal before m after hsplit).new_of_declaration htold
    exact not_hasDeclared (hlegal.of_prefix hsplit) hc hnew channel' hbefore
  case declaresFirst =>
    intro before m after hsplit hchannel c hc hname hnew
    have hready : ¬ m.parcel.isReady c = true := fun h =>
      (((hlegal.through hsplit).isReady_iff hc).1 h).elim hname hnew
    rw [(hlegal before m after hsplit).goesOn hchannel hc, if_neg hready]
  case retries =>
    intro before m between m' after hsplit channel name exchange htold hbetween hfound hname
    exact hlegal.declares_again hsplit htold hbetween hfound hname
  case hears =>
    intro before m after hsplit r reply
    exact (hlegal before m after hsplit).asked_of_told
  case failed =>
    intro m hm hfails
    refine ⟨hhonest m hm hfails, fun m' hm' hcall => ?_⟩
    exact hnumbered.silent hlegal hm hfails hm' hcall
  case turn => exact fun hactive i x waiting hwaiting σ w s => after_turn w s hactive hwaiting
  case messages =>
    intro w context message metadata exchange s published
    have htarget : p.target message.name exchange = d.producer.target message.name exchange := by
      rw [hsound.producer]
      rfl
    refine ⟨fun e hencoded => ?_, fun encoded hencoded => ?_⟩
    · unfold published
      rw [Producer.publish_of_error _ hencoded]
      exact ⟨rfl, rfl, Producer.broker_logs ..⟩
    · rw [htarget]
      exact Producer.publish_of_ok _ hencoded

namespace Desk

/-- A producer that has not published anything. -/
def ofProducer (p : Producer) : Desk where
  producer := { p with channel := none }

theorem sound_ofProducer (p : Producer) : Sound p (ofProducer p) where
  producer := rfl
  legal before m after h := by cases before <;> cases h
  active i x phase h := by cases h

theorem numbered_ofProducer (p : Producer) : Numbered (ofProducer p) where
  nodup := List.nodup_nil
  waiting i h := by cases h
  active i x phase h := by cases h
  record m h := by cases h
  pairs := .nil

theorem honest_ofProducer (p : Producer) : Honest (ofProducer p) := fun m h => by cases h

end Desk

open Desk in
/-- The producer keeps one channel, and declares on it what it publishes to. -/
theorem cache_law (p : Producer) (ls : List Desk.Label) : CacheLaw p ((ofProducer p).after ls) :=
  cacheLaw_of_sound (after_induction (sound_ofProducer p) (fun h hl => h.step hl) ls)
    (after_induction (numbered_ofProducer p) (fun h hl => h.step hl) ls)
    (after_induction (honest_ofProducer p) (fun h hl => h.step hl) ls)

end MessageBus
