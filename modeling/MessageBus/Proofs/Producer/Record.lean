import Mathlib.Data.List.Induction
import MessageBus.Proofs.Producer.Turns

/-!
# The record of a desk

What the publishes on a producer did says which channel was opened last, and what was declared on it
since. `Follows` says once what a publish can do after a record; on every desk the producer is as
the record says, and each move is one that can follow. Main statement: `Sound.step`.
-/

set_option autoImplicit false

namespace MessageBus

namespace Desk

/-! ## What the record says -/

namespace Move

/-- The channel that a publish learns was opened for it. -/
def opened? (m : Move) : Option Amqp.ChannelId :=
  match m.sight with
  | .told .openChannel (.opened channel) => some channel
  | _ => none

/-- The exchange that a publish learns was declared, and the channel on which. -/
def declared? (m : Move) : Option (Amqp.ChannelId × String) :=
  match m.sight with
  | .told (.on channel (.declareExchange name _)) .granted => some (channel, name)
  | _ => none

/-- The channel to use after a move. -/
def use (held : Option ProducerChannel) (m : Move) : Option ProducerChannel :=
  match m.opened?, m.declared? with
  | some channel, _ => some { channel }
  | none, some (_, name) => held.map fun c => { c with declared := c.declared ++ [name] }
  | none, none => held

end Move

/-- The channel that was opened last, with the exchanges that were declared since. -/
def heldAfter (record : List Move) : Option ProducerChannel := record.foldl Move.use none

/-- Since the last channel was opened, an exchange was declared, on this channel. -/
def HasDeclared (record : List Move) (channel : Amqp.ChannelId) (name : String) : Prop :=
  ∃ before m after, record = before ++ m :: after ∧ m.declared? = some (channel, name) ∧
    ∀ m' ∈ after, m'.opened? = none

/-- The last move was that of a publish that made a request. -/
def Asked (record : List Move) (i : Nat) (x : Parcel) (r : Request) : Prop :=
  ∃ before m, record = before ++ [m] ∧ m.call = i ∧ m.parcel = x ∧ m.asks = some r

/-- What a publish can do after a record. -/
inductive Follows (record : List Move) : Move → Prop
  /-- It finds no channel that is open, -/
  | opens {i x isOpen} (h : isOpen = false ∨ heldAfter record = none) :
    Follows record ⟨i, x, .found isOpen, some .openChannel⟩
  /-- or it finds one. -/
  | enters {i x c} (hc : heldAfter record = some c) :
    Follows record ⟨i, x, .found true, some ((SendPhase.onChannel x c).request x)⟩
  /-- It gets a channel, -/
  | opened {i x channel} (h : Asked record i x .openChannel) :
    Follows record ⟨i, x, .told .openChannel (.opened channel),
      some ((SendPhase.onChannel x { channel }).request x)⟩
  /-- or it does not. -/
  | unopened {i x e} (h : Asked record i x .openChannel) :
    Follows record ⟨i, x, .told .openChannel (.noChannel e), none⟩
  /-- Its exchange is declared, -/
  | declared {i x c} (hc : heldAfter record = some c) (hready : x.isReady c = false)
    (h : Asked record i x (.on c.channel x.declaration)) :
    Follows record ⟨i, x, .told (.on c.channel x.declaration) .granted,
      some (.on c.channel x.dispatch)⟩
  /-- or it is not. -/
  | undeclared {i x c} (hc : heldAfter record = some c) (hready : x.isReady c = false)
    (h : Asked record i x (.on c.channel x.declaration)) :
    Follows record ⟨i, x, .told (.on c.channel x.declaration) .refused, none⟩
  /-- The message is on its way, or it is not. -/
  | sent {i x c reply} (hc : heldAfter record = some c)
    (h : Asked record i x (.on c.channel x.dispatch)) :
    Follows record ⟨i, x, .told (.on c.channel x.dispatch) reply, none⟩

/-- Every move of a record follows what was recorded before. -/
def Legal (record : List Move) : Prop :=
  ∀ before m after, record = before ++ m :: after → Follows before m

/-! ## Records that grow -/

variable {record before after : List Move} {m : Move}

/-- Where a record that has grown is split. -/
theorem snoc_eq_append_cons {m' : Move} (h : record ++ [m] = before ++ m' :: after) :
    (before = record ∧ m' = m ∧ after = []) ∨ ∃ rest, after = rest ++ [m] ∧
      record = before ++ m' :: rest := by
  rcases after.eq_nil_or_concat with rfl | ⟨rest, last, rfl⟩
  · obtain ⟨rfl, hm⟩ := List.append_inj' h rfl
    exact .inl ⟨rfl, (List.singleton_inj.1 hm).symm, rfl⟩
  · rw [List.concat_eq_append, ← List.cons_append, ← List.append_assoc] at h
    obtain ⟨hrecord, hm⟩ := List.append_inj' h rfl
    obtain rfl := List.singleton_inj.1 hm
    exact .inr ⟨rest, List.concat_eq_append, hrecord⟩

theorem Legal.snoc (h : Legal record) (hm : Follows record m) : Legal (record ++ [m]) := by
  intro before m' after hsplit
  rcases snoc_eq_append_cons hsplit with ⟨rfl, rfl, -⟩ | ⟨rest, -, hrecord⟩
  · exact hm
  · exact h before m' rest hrecord

/-- What was recorded before a move is a legal record too. -/
theorem Legal.of_prefix (h : Legal record) (hsplit : record = before ++ after) : Legal before := by
  intro b m a hb
  exact h b m (a ++ after) (by rw [hsplit, hb, List.append_assoc, List.cons_append])

theorem Legal.through (h : Legal record) (hsplit : record = before ++ m :: after) :
    Legal (before ++ [m]) := by
  have hsplit' : record = (before ++ [m]) ++ after := by simpa using hsplit
  exact h.of_prefix hsplit'

theorem heldAfter_snoc (record : List Move) (m : Move) :
    heldAfter (record ++ [m]) = m.use (heldAfter record) := by
  simp [heldAfter, List.foldl_append]

theorem hasDeclared_snoc {channel : Amqp.ChannelId} {name : String} :
    HasDeclared (record ++ [m]) channel name ↔
      m.declared? = some (channel, name) ∨
        (m.opened? = none ∧ HasDeclared record channel name) := by
  constructor
  · rintro ⟨before, m', after, hsplit, hdeclared, hkept⟩
    rcases snoc_eq_append_cons hsplit with ⟨rfl, rfl, -⟩ | ⟨rest, rfl, hrecord⟩
    · exact .inl hdeclared
    · exact .inr ⟨hkept m (by simp), before, m', rest, hrecord, hdeclared,
        fun m'' hm'' => hkept m'' (List.mem_append_left _ hm'')⟩
  · rintro (hdeclared | ⟨hopened, before, m', after, rfl, hdeclared, hkept⟩)
    · exact ⟨record, m, [], rfl, hdeclared, by simp⟩
    · refine ⟨before, m', after ++ [m], by simp, hdeclared, fun m'' hm'' => ?_⟩
      rcases List.mem_append.1 hm'' with hm'' | hm''
      · exact hkept m'' hm''
      · rwa [List.mem_singleton.1 hm'']

theorem declared?_eq_some {channel : Amqp.ChannelId} {name : String} :
    m.declared? = some (channel, name) ↔
      ∃ exchange, m.sight = .told (.on channel (.declareExchange name exchange)) .granted := by
  unfold Move.declared?
  split
  · next channel' name' exchange h => simp [h]
  · next h =>
    simp only [reduceCtorEq, false_iff, not_exists]
    exact fun exchange hsight => h _ _ _ hsight

/-- What is declared on the channel that is held is what the record says. -/
theorem hasDeclared_iff (h : Legal record) {channel : Amqp.ChannelId} {name : String} :
    HasDeclared record channel name ↔
      ∃ c, heldAfter record = some c ∧ c.channel = channel ∧ name ∈ c.declared := by
  induction record using List.reverseRecOn with
  | nil =>
    constructor
    · rintro ⟨before, m, after, hsplit, -⟩
      cases before <;> cases hsplit
    · rintro ⟨c, hc, -⟩
      cases hc
  | append_singleton record m ih =>
    have hbefore := ih (h.of_prefix rfl)
    have hm := h record m [] rfl
    rw [hasDeclared_snoc, hbefore, heldAfter_snoc]
    -- by what the last move was: a new channel has nothing declared on it, and a declaration adds
    -- its exchange to what was there
    cases hm with
    | opens h => simp [Move.use, Move.opened?, Move.declared?]
    | enters hc => simp [Move.use, Move.opened?, Move.declared?]
    | opened h => simp [Move.use, Move.opened?, Move.declared?]
    | unopened h => simp [Move.use, Move.opened?, Move.declared?]
    | @declared i x c hc hready h =>
      simp only [Move.use, Move.opened?, Move.declared?, Parcel.declaration, hc, Option.map_some,
        Option.some.injEq, Prod.mk.injEq, true_and, exists_eq_left', List.mem_append,
        List.mem_singleton]
      tauto
    | undeclared hc hready h => simp [Move.use, Move.opened?, Move.declared?, Parcel.declaration]
    | sent hc h => simp [Move.use, Move.opened?, Move.declared?, Parcel.dispatch]

/-- What is missing on the channel that is held is declared on none. -/
theorem not_hasDeclared (h : Legal record) {c : ProducerChannel} (hc : heldAfter record = some c)
    {name : String} (hnew : name ∉ c.declared) (channel : Amqp.ChannelId) :
    ¬ HasDeclared record channel name := by
  intro hdeclared
  obtain ⟨c', hc', -, hmem⟩ := (hasDeclared_iff h).1 hdeclared
  rw [hc] at hc'
  cases hc'
  exact hnew hmem

/-- Whether a parcel can be sent off at once is what the record says. -/
theorem Legal.isReady_iff (h : Legal record) {x : Parcel} {c : ProducerChannel}
    (hc : heldAfter record = some c) :
    x.isReady c = true ↔ x.exchangeName = "" ∨ HasDeclared record c.channel x.exchangeName := by
  rw [Parcel.isReady_iff, hasDeclared_iff h]
  simp [hc]

/-- While no channel is opened, the one that is held stays. -/
theorem heldAfter_append {more : List Move} (hmore : ∀ m ∈ more, m.opened? = none) :
    (heldAfter (record ++ more)).map ProducerChannel.channel =
      (heldAfter record).map ProducerChannel.channel := by
  induction more using List.reverseRecOn with
  | nil => rw [List.append_nil]
  | append_singleton more m ih =>
    have hm : m.opened? = none := hmore m (by simp)
    rw [← List.append_assoc, heldAfter_snoc, ← ih fun m' hm' => hmore m' (by simp [hm'])]
    unfold Move.use
    rw [hm]
    cases m.declared? with
    | none => rfl
    | some declared => cases heldAfter (record ++ more) <;> rfl

/-- ... and what is declared on it is what was, and what is declared now. -/
theorem hasDeclared_append {more : List Move} (hmore : ∀ m ∈ more, m.opened? = none)
    {channel : Amqp.ChannelId} {name : String} :
    HasDeclared (record ++ more) channel name ↔
      HasDeclared record channel name ∨ ∃ m ∈ more, m.declared? = some (channel, name) := by
  induction more using List.reverseRecOn with
  | nil => simp
  | append_singleton more m ih =>
    have hm : m.opened? = none := hmore m (by simp)
    rw [← List.append_assoc, hasDeclared_snoc, ih fun m' hm' => hmore m' (by simp [hm'])]
    simp only [hm, true_and, List.mem_append, List.mem_singleton, or_and_right, exists_or,
      exists_eq_left]
    rw [or_comm, or_assoc]

/-! ## What a move can be -/

namespace Follows

/-- A channel is asked for by a publish that finds none that is open. -/
theorem openChannel_iff (h : Follows record m) :
    m.asks = some .openChannel ↔
      ∃ isOpen, m.sight = .found isOpen ∧ (isOpen = false ∨ heldAfter record = none) := by
  cases h with
  | @opens i x isOpen h => simpa using h
  | enters hc => simp [SendPhase.request_onChannel, hc]
  | opened h => simp [SendPhase.request_onChannel]
  | unopened h => simp
  | declared hc hready h => simp
  | undeclared hc hready h => simp
  | sent hc h => simp

/-- Any other request is made on the channel that is held: the exchange is declared, unless it has
no name or is declared already, and then the message goes out. -/
theorem on_held (h : Follows record m) {channel : Amqp.ChannelId} {method : Amqp.Method}
    (hasks : m.asks = some (.on channel method)) :
    ∃ c, heldAfter (record ++ [m]) = some c ∧ c.channel = channel ∧
      method = if m.parcel.isReady c then m.parcel.dispatch else m.parcel.declaration := by
  rw [heldAfter_snoc]
  cases h with
  | opens h => cases hasks
  | @enters i x c hc =>
    rw [SendPhase.request_onChannel] at hasks
    cases hasks
    exact ⟨c, by simpa [Move.use, Move.opened?, Move.declared?] using hc, rfl, rfl⟩
  | @opened i x channel h =>
    rw [SendPhase.request_onChannel] at hasks
    cases hasks
    exact ⟨{ channel }, rfl, rfl, rfl⟩
  | unopened h => cases hasks
  | @declared i x c hc hready h =>
    cases hasks
    refine ⟨{ c with declared := c.declared ++ [x.exchangeName] }, ?_, rfl, ?_⟩
    · simp [Move.use, Move.opened?, Move.declared?, Parcel.declaration, hc]
    · simp [Parcel.isReady]
  | undeclared hc hready h => cases hasks
  | sent hc h => cases hasks

/-- A publish that has a channel goes on with it. -/
theorem goesOn (h : Follows record m) {c : ProducerChannel}
    (hchannel : m.sight = .found true ∨ m.opened?.isSome)
    (hc : heldAfter (record ++ [m]) = some c) :
    m.asks = some (.on c.channel
      (if m.parcel.isReady c then m.parcel.dispatch else m.parcel.declaration)) := by
  rw [heldAfter_snoc] at hc
  cases h with
  | @opens i x isOpen h =>
    have hopen : isOpen = true := by simpa [Move.opened?] using hchannel
    have hnone : heldAfter record = none := by simpa [hopen] using h
    simp [Move.use, Move.opened?, Move.declared?, hnone] at hc
  | @enters i x c' hc' =>
    obtain rfl : c' = c := by simpa [Move.use, Move.opened?, Move.declared?, hc'] using hc
    rw [SendPhase.request_onChannel]
  | @opened i x channel h =>
    obtain rfl : { channel } = c := by simpa [Move.use, Move.opened?] using hc
    rw [SendPhase.request_onChannel]
  | unopened h => simp [Move.opened?] at hchannel
  | declared hc hready h => simp [Move.opened?] at hchannel
  | undeclared hc hready h => simp [Move.opened?] at hchannel
  | sent hc h => simp [Move.opened?] at hchannel

/-- A declaration is answered on the channel that is held, and the exchange was missing there. -/
theorem new_of_declaration (h : Follows record m) {channel : Amqp.ChannelId} {name : String}
    {exchange : Exchange} {reply : Reply}
    (htold : m.sight = .told (.on channel (.declareExchange name exchange)) reply) :
    ∃ c, heldAfter record = some c ∧ c.channel = channel ∧ name ≠ "" ∧ name ∉ c.declared := by
  have hnew {x : Parcel} {c : ProducerChannel} (hready : x.isReady c = false) :
      x.exchangeName ≠ "" ∧ x.exchangeName ∉ c.declared := by
    rw [← not_or, ← Parcel.isReady_iff, hready]
    exact Bool.false_ne_true
  cases h with
  | opens h => cases htold
  | enters hc => cases htold
  | opened h => cases htold
  | unopened h => cases htold
  | declared hc hready h =>
    cases htold
    exact ⟨_, hc, rfl, hnew hready⟩
  | undeclared hc hready h =>
    cases htold
    exact ⟨_, hc, rfl, hnew hready⟩
  | sent hc h => cases htold

/-- An answer is to what the same publish has just asked. -/
theorem asked_of_told (h : Follows record m) {r : Request} {reply : Reply}
    (htold : m.sight = .told r reply) : Asked record m.call m.parcel r := by
  cases h with
  | opens h => cases htold
  | enters hc => cases htold
  | opened h => cases htold; exact h
  | unopened h => cases htold; exact h
  | declared hc hready h => cases htold; exact h
  | undeclared hc hready h => cases htold; exact h
  | sent hc h => cases htold; exact h

end Follows

/-- A declaration that was refused is asked for again by the next publish that finds the channel
open and is for the exchange. -/
theorem Legal.declares_again (h : Legal record) {between : List Move} {m' : Move}
    (hsplit : record = before ++ m :: (between ++ m' :: after)) {channel : Amqp.ChannelId}
    {name : String} {exchange : Exchange}
    (htold : m.sight = .told (.on channel (.declareExchange name exchange)) .refused)
    (hbetween : ∀ m'' ∈ between, m''.opened? = none ∧ m''.declared? ≠ some (channel, name))
    (hfound : m'.sight = .found true) (hname : m'.parcel.exchangeName = name) :
    m'.asks = some (.on channel m'.parcel.declaration) := by
  obtain ⟨c, hc, rfl, hne, hnew⟩ := (h before m _ hsplit).new_of_declaration htold
  -- up to the next publish the channel stays, and the exchange is not declared on it
  have hmore : ∀ m'' ∈ m :: between ++ [m'],
      m''.opened? = none ∧ m''.declared? ≠ some (c.channel, name) := by
    have hm : m.opened? = none ∧ m.declared? = none := by
      simp [Move.opened?, Move.declared?, htold]
    have hm' : m'.opened? = none ∧ m'.declared? = none := by
      simp [Move.opened?, Move.declared?, hfound]
    exact List.forall_mem_append.2
      ⟨List.forall_mem_cons.2 ⟨⟨hm.1, by simp [hm.2]⟩, hbetween⟩,
        List.forall_mem_singleton.2 ⟨hm'.1, by simp [hm'.2]⟩⟩
  have hopened : ∀ m'' ∈ m :: between ++ [m'], m''.opened? = none := fun m'' hm'' =>
    (hmore m'' hm'').1
  have hheld : (heldAfter (before ++ (m :: between ++ [m']))).map ProducerChannel.channel =
      some c.channel := by
    rw [heldAfter_append hopened, hc, Option.map_some]
  have hmissing : ¬ HasDeclared (before ++ (m :: between ++ [m'])) c.channel name := by
    rw [hasDeclared_append hopened, not_or, not_exists]
    exact ⟨not_hasDeclared (h.of_prefix hsplit) hc hnew _,
      fun m'' hdeclared => (hmore m'' hdeclared.1).2 hdeclared.2⟩
  have hsplit' : record = (before ++ m :: between) ++ m' :: after := by simp [hsplit]
  have hnext : Follows (before ++ m :: between) m' := h _ m' after hsplit'
  have hlegal := h.through hsplit'
  rw [List.append_assoc] at hlegal
  obtain ⟨c', hc', hchannel⟩ := Option.map_eq_some_iff.1 hheld
  have hready : ¬ m'.parcel.isReady c' = true := by
    rw [hlegal.isReady_iff hc', hchannel, hname, not_or]
    exact ⟨hne, hmissing⟩
  rw [hnext.goesOn (.inl hfound) (by rwa [List.append_assoc]), if_neg hready, hchannel]

/-! ## The record of a desk -/

/-- A desk whose producer was made as given, and is as the record says. -/
structure Sound (p : Producer) (d : Desk) : Prop where
  producer : d.producer = { p with channel := heldAfter d.record }
  legal : Legal d.record
  active : ∀ i x phase, d.active = some (i, x, phase) →
    Asked d.record i x (phase.request x) ∧
      (phase = .opening ∨ ∃ c, heldAfter d.record = some c ∧ phase = .onChannel x c)

namespace Sound

variable {p : Producer} {d d' : Desk}

/-- A publish that has just moved has the lock, and waits for the answer to what it asked. -/
theorem of_move (hproducer : d'.producer = { p with channel := heldAfter (record ++ [m]) })
    (hrecord : d'.record = record ++ [m]) (hlegal : Legal record) (hm : Follows record m)
    (hactive : ∀ i x phase, d'.active = some (i, x, phase) →
      m.call = i ∧ m.parcel = x ∧ m.asks = some (phase.request x) ∧
        (phase = .opening ∨ ∃ c, heldAfter (record ++ [m]) = some c ∧ phase = .onChannel x c)) :
    Sound p d' where
  producer := by rw [hproducer, hrecord]
  legal := by rw [hrecord]; exact hlegal.snoc hm
  active i x phase h := by
    obtain ⟨hcall, hparcel, hasks, hphase⟩ := hactive i x phase h
    rw [hrecord]
    exact ⟨⟨record, m, rfl, hcall, hparcel, hasks⟩, hphase⟩

theorem goOn_end (h : Sound p d) {i : Nat} {x : Parcel} {sight : Sight} {result : Outcome}
    (hm : Follows d.record ⟨i, x, sight, none⟩)
    (huse : Move.use (heldAfter d.record) ⟨i, x, sight, none⟩ = heldAfter d.record) :
    Sound p (d.goOn i x sight (.inl result)) := by
  refine of_move ?_ rfl h.legal hm fun i x phase hactive => by cases hactive
  rw [heldAfter_snoc, huse]
  exact h.producer

theorem goOn_next (h : Sound p d) {i : Nat} {x : Parcel} {sight : Sight} {c : ProducerChannel}
    (hm : Follows d.record ⟨i, x, sight, some ((SendPhase.onChannel x c).request x)⟩)
    (huse : Move.use (heldAfter d.record)
      ⟨i, x, sight, some ((SendPhase.onChannel x c).request x)⟩ = some c) :
    Sound p (d.goOn i x sight (.inr c)) := by
  refine of_move ?_ rfl h.legal hm fun i x phase hactive => ?_
  · rw [heldAfter_snoc, huse]
    simp only [goOn, h.producer]
  · cases hactive
    exact ⟨rfl, rfl, rfl, .inr ⟨c, by rw [heldAfter_snoc, huse], rfl⟩⟩

/-- An answer keeps a desk sound. -/
theorem reply (h : Sound p d) {i : Nat} {x : Parcel} {phase : SendPhase} {r : Reply}
    {next : Outcome ⊕ ProducerChannel} (hactive : d.active = some (i, x, phase))
    (hanswer : phase.answer x r = some next) :
    Sound p (d.goOn i x (.told (phase.request x) r) next) := by
  obtain ⟨hasked, rfl | ⟨c, hc, rfl⟩⟩ := h.active i x phase hactive
  · cases r with
    | opened channel =>
      cases hanswer
      exact h.goOn_next (.opened hasked) rfl
    | noChannel e =>
      cases hanswer
      exact h.goOn_end (.unopened hasked) rfl
    | granted => cases hanswer
    | refused => cases hanswer
  · cases hready : x.isReady c with
    | false =>
      rw [SendPhase.onChannel_of_not_isReady hready] at hasked hanswer ⊢
      cases r with
      | opened channel => cases hanswer
      | noChannel e => cases hanswer
      | granted =>
        cases hanswer
        refine h.goOn_next ?_ ?_
        · rw [SendPhase.onChannel_declared]
          exact .declared hc hready hasked
        · simp [Move.use, Move.opened?, Move.declared?, SendPhase.request, Parcel.declaration, hc]
      | refused =>
        cases hanswer
        exact h.goOn_end (.undeclared hc hready hasked) rfl
    | true =>
      rw [SendPhase.onChannel_of_isReady hready] at hasked hanswer ⊢
      cases r with
      | opened channel => cases hanswer
      | noChannel e => cases hanswer
      | granted =>
        cases hanswer
        exact h.goOn_end (.sent hc hasked) rfl
      | refused =>
        cases hanswer
        exact h.goOn_end (.sent hc hasked) rfl

/-- What the publish that takes the lock does first. -/
theorem enter (h : Sound p d) {i : Nat} {x : Parcel} (isOpen : Bool)
    (waiting : List (Nat × Parcel)) :
    let phase := SendPhase.first x d.producer isOpen
    Sound p { d with
      waiting
      active := some (i, x, phase)
      record := d.record ++ [⟨i, x, .found isOpen, some (phase.request x)⟩] } := by
  intro phase
  have huse : heldAfter (d.record ++ [⟨i, x, .found isOpen, some (phase.request x)⟩]) =
      heldAfter d.record := heldAfter_snoc ..
  have hchannel : d.producer.channel = heldAfter d.record := by rw [h.producer]
  have hfirst := SendPhase.first_cases x d.producer isOpen
  rw [hchannel] at hfirst
  refine of_move (by rw [huse]; exact h.producer) rfl h.legal ?_ fun i x phase hactive => ?_
  · rcases hfirst with ⟨hnone, hphase⟩ | ⟨c, rfl, hc, hphase⟩
    · rw [show phase = _ from hphase]
      exact .opens hnone
    · rw [show phase = _ from hphase]
      exact .enters hc
  · cases hactive
    refine ⟨rfl, rfl, rfl, ?_⟩
    rcases hfirst with ⟨-, hphase⟩ | ⟨c, -, hc, hphase⟩
    · exact .inl hphase
    · exact .inr ⟨c, by rw [huse, hc], hphase⟩

theorem step (h : Sound p d) {l : Label} (hl : d.step l = some d') : Sound p d' := by
  rcases step_cases hl with ⟨x, rfl⟩ | ⟨isOpen, i, x, waiting, -, -, rfl⟩ |
    ⟨r, i, x, phase, next, hactive, hanswer, rfl⟩ | ⟨i, rfl⟩
  · exact ⟨h.producer, h.legal, h.active⟩
  · exact h.enter isOpen waiting
  · exact h.reply hactive hanswer
  · refine ⟨h.producer, h.legal, fun i x phase hactive => ?_⟩
    exact h.active i x phase (Option.eq_some_of_filter_eq_some hactive)

end Sound

end Desk

end MessageBus
