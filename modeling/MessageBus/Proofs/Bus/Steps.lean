import Mathlib.Data.List.Forall2
import MessageBus.Bus.Application
import MessageBus.Proofs.Connection.Steps
import MessageBus.Proofs.Consumer.Uncalled

/-!
# Steps of applications

An application takes one step at a time, and in each step at most one of its buses calls one of its
consumers. `Bus.Next` says what becomes of a bus in a step, its own or somebody else's: either it
goes on with its calls, or every consumer goes on by itself, uncalled (`Bus.Moved`). To a consumer,
what happens in an application is thus a history of its own. Main statement:
`Application.moved_of_step`.
-/

set_option autoImplicit false

namespace MessageBus

namespace Crew

/-- To its consumer, what a crew does is no call. -/
theorem uncalled_takeAll (ls : List Label) (moved : Bool) (s : Scene) (c : Consumer)
    (crew : Crew) :
    let r := takeAll ls moved s crew
    s.Onward r.2.1 ∧
      Consumer.Site.Uncalled ⟨s, { c with crew }⟩ ⟨r.2.1, { c with crew := r.2.2 }⟩ := by
  induction ls generalizing moved s crew with
  | nil => exact ⟨Scene.onward_refl s, Consumer.Site.uncalled_refl _⟩
  | cons l ls ih =>
    rw [takeAll]
    cases hstep : crew.step s l with
    | none => exact ih moved s crew
    | some r =>
      obtain ⟨s', crew'⟩ := r
      obtain ⟨honward, huncalled⟩ := ih true s' crew'
      have hown : ({ c with crew } : Consumer).step s (.work l) =
          some (s', { c with crew := crew' }) := by
        simp [Consumer.step, hstep]
      exact ⟨(Consumer.leads_step hown).onward.trans honward,
        (Consumer.Site.uncalled_of_step rfl hown).trans huncalled⟩

end Crew

/-- What is asked of each consumer. -/
def SeriesKind.label : SeriesKind → Consumer.Label
  | .start token => .start token
  | .stop => .stop

namespace Bus

open Consumer (Site)
open Consumer.Site (uncalled_refl uncalled_of_step uncalled_elsewhere uncalled_getD)

variable {s s' : Scene} {b b' : Bus} {c c' : Consumer}

/-! ## What a bus does besides its calls -/

/-- What a step is to a bus in which it calls no consumer. -/
structure Moved (s : Scene) (b : Bus) (s' : Scene) (b' : Bus) : Prop where
  scene : s.Onward s'
  consumers : List.Forall₂ (fun c c' => Site.Uncalled ⟨s, c⟩ ⟨s', c'⟩) b.consumers b'.consumers
  series : b'.series = b.series
  isHeld : b'.isHeld = b.isHeld
  /-- No loop is begun. -/
  loop : b.connection.loop = .absent → b'.connection.loop = .absent

/-- What is a step of somebody else. -/
theorem moved_elsewhere (h : s.Onward s') (b : Bus) : Moved s b s' b where
  scene := h
  consumers := List.forall₂_same.2 fun c _ => uncalled_elsewhere h c
  series := rfl
  isHeld := rfl
  loop := id

/-- A step of one consumer, uncalled. -/
def Free (s : Scene) (f : Consumer → Option (Scene × Consumer)) : Prop :=
  ∀ c s' c', f c = some (s', c') → s.Onward s' ∧ Site.Uncalled ⟨s, c⟩ ⟨s', c'⟩

theorem forall₂_set {α : Type} {R : α → α → Prop} {l : List α} (hrefl : ∀ a ∈ l, R a a) {i : Nat}
    {a a' : α} (ha : l[i]? = some a) (h : R a a') : List.Forall₂ R l (l.set i a') := by
  induction l generalizing i with
  | nil => cases ha
  | cons x l ih =>
    rw [List.forall_mem_cons] at hrefl
    cases i with
    | zero =>
      obtain rfl : x = a := by simpa using ha
      exact .cons h (List.forall₂_same.2 hrefl.2)
    | succ i => exact .cons hrefl.1 (ih hrefl.2 ha)

theorem moved_eachConsumer {f : Consumer → Option (Scene × Consumer)} (hf : Free s f)
    (h : b.eachConsumer f = some (s', b')) : Moved s b s' b' := by
  obtain ⟨i, -, hi⟩ := List.exists_of_findSome?_eq_some h
  obtain ⟨c, hc, hi⟩ := Option.bind_eq_some_iff.1 hi
  obtain ⟨⟨s₁, c'⟩, hstep, hi⟩ := Option.bind_eq_some_iff.1 hi
  obtain ⟨rfl, rfl⟩ := Prod.mk.inj (Option.some.inj hi)
  obtain ⟨honward, huncalled⟩ := hf c s₁ c' hstep
  exact
    { scene := honward
      consumers := forall₂_set (fun x _ => uncalled_elsewhere honward x) hc huncalled
      series := rfl
      isHeld := rfl
      loop := id }

theorem onward_openChannel (c : Connection) (s : Scene) : s.Onward (c.openChannel s).2 := by
  unfold Connection.openChannel
  cases c.link with
  | none => exact Scene.onward_refl s
  | some link =>
    dsimp only
    split
    · exact Scene.onward_broker s _
    · exact Scene.onward_refl s

theorem onward_answer (b : Bus) (s : Scene) (r : Request) : s.Onward (b.answer s r).2 := by
  cases r with
  | openChannel =>
    have honward := onward_openChannel b.connection s
    rcases hopen : b.connection.openChannel s with ⟨_ | _, s₁⟩ <;>
      simpa only [answer, hopen] using honward
  | on channel method => exact Scene.onward_broker s _

theorem free_replyStep? (b : Bus) (s : Scene) : Free s (b.replyStep? s) := by
  intro c s' c' h
  obtain ⟨r, -, h⟩ := Option.bind_eq_some_iff.1 h
  have honward := onward_answer b s r
  have hstep : c.step (b.answer s r).2 (.reply (b.answer s r).1) = some (s', c') := h
  exact ⟨honward.trans (Consumer.leads_step hstep).onward,
    (uncalled_elsewhere honward c).trans (uncalled_of_step rfl hstep)⟩

theorem free_callStep? (b : Bus) (s : Scene) : Free s (b.callStep? s) := by
  intro c s' c' h
  unfold callStep? at h
  split at h
  · split at h
    · exact free_replyStep? b s c s' c' h
    · cases h
  · obtain ⟨l, hl, hstep⟩ := List.exists_of_findSome?_eq_some h
    refine ⟨(Consumer.leads_step hstep).onward, uncalled_of_step ?_ hstep⟩
    simp only [List.mem_cons, List.not_mem_nil, or_false] at hl
    rcases hl with rfl | rfl | rfl | rfl <;> rfl

theorem free_hearStep? (b : Bus) (s : Scene) : Free s (b.hearStep? s) := by
  intro c s' c' h
  obtain ⟨i, -, hstep⟩ := List.exists_of_findSome?_eq_some h
  exact ⟨(Consumer.leads_step hstep).onward, uncalled_of_step rfl hstep⟩

theorem free_workStep? (s : Scene) : Free s (workStep? s) := by
  intro c s' c' h
  obtain ⟨honward, huncalled⟩ := Crew.uncalled_takeAll c.crew.labels false s c c.crew
  unfold workStep? at h
  split at h
  · next heq =>
    obtain ⟨rfl, rfl⟩ := Prod.mk.inj (Option.some.inj h)
    rw [heq] at honward huncalled
    exact ⟨honward, huncalled⟩
  · cases h

theorem free_streamStep? (s : Scene) : Free s (streamStep? s) := by
  intro c s' c' h
  obtain ⟨old, -, hstep⟩ := Option.bind_eq_some_iff.1 h
  exact ⟨(Consumer.leads_step hstep).onward, uncalled_of_step rfl hstep⟩

theorem free_forsake? (s : Scene) : Free s (forsake? s) := by
  intro c s' c' h
  obtain ⟨old, -, h⟩ := Option.bind_eq_some_iff.1 h
  obtain ⟨rfl, rfl⟩ := Prod.mk.inj (Option.some.inj h)
  exact ⟨Scene.onward_broker s _, uncalled_elsewhere (Scene.onward_broker s _) c⟩

/-! ## The connection -/

theorem moved_connection {connection : Connection} (h : s.Onward s')
    (hloop : b.connection.loop = .absent → connection.loop = .absent) :
    Moved s b s' { b with connection } :=
  { moved_elsewhere h b with loop := hloop }

/-- A loop that was not begun does nothing. -/
theorem loopStep?_of_absent {c : Connection} (h : c.loop = .absent) (s : Scene) :
    c.loopStep? s = none := by
  simp [Connection.loopStep?, Connection.step, h]

theorem redial?_of_absent {c : Connection} (h : c.loop = .absent) (s : Scene) :
    c.redial? s = none := by
  simp [Connection.redial?, h]

theorem onward_dial (c : Connection) (s : Scene) : s.Onward (c.dial s).2 := by
  unfold Connection.dial
  cases c.settings.address? with
  | none => exact Scene.onward_refl s
  | some a => exact Scene.onward_broker s _

theorem moved_backgroundStep? (h : b.backgroundStep? s = some (s', b')) : Moved s b s' b' := by
  simp only [backgroundStep?, Option.or_eq_some_iff] at h
  rcases h with h | ⟨-, h | ⟨-, h | ⟨-, h | ⟨-, h⟩⟩⟩⟩
  · exact moved_eachConsumer (free_streamStep? s) h
  · exact moved_eachConsumer (free_workStep? s) h
  · exact moved_eachConsumer (free_forsake? s) h
  · exact moved_eachConsumer (free_hearStep? b s) h
  · obtain ⟨connection, hstep, h⟩ := Option.map_eq_some_iff.1 h
    obtain ⟨rfl, rfl⟩ := Prod.mk.inj h
    refine moved_connection (Scene.onward_refl s) fun habsent => ?_
    rw [loopStep?_of_absent habsent] at hstep
    cases hstep

theorem uncalled_reconnected (s : Scene) (c : Consumer) :
    Site.Uncalled ⟨s, c⟩ ⟨s, ((c.step s .reconnected).map Prod.snd).getD c⟩ :=
  uncalled_getD rfl fun _ _ h => (Consumer.fst_of_some h).symm ▸ rfl

theorem uncalled_channelClosed (s : Scene) (c : Consumer) :
    Site.Uncalled ⟨s, c⟩ ⟨s, ((c.step s .channelClosed).map Prod.snd).getD c⟩ :=
  uncalled_getD rfl fun _ _ h => (Consumer.fst_of_some h).symm ▸ rfl

theorem Moved.announce (h : Moved s b s' b') : Moved s b s' (b'.announce s') :=
  { h with
    consumers := List.forall₂_map_right_iff.2 (h.consumers.imp fun _ c' hc =>
      hc.trans (uncalled_reconnected s' c')) }

theorem onward_redial? {c c' : Connection} (h : c.redial? s = some (s', c')) : s.Onward s' := by
  have honward := onward_dial c s
  unfold Connection.redial? at h
  generalize c.dial s = dialed at h honward
  split at h
  · obtain ⟨c₁, -, h⟩ := Option.map_eq_some_iff.1 h
    rw [← (Prod.mk.inj h).1]
    exact honward
  · cases h

theorem moved_brokerStep? (h : b.brokerStep? s = some (s', b')) : Moved s b s' b' := by
  unfold brokerStep? at h
  cases hdial : b.connection.redial? s with
  | none =>
    rw [hdial] at h
    exact moved_eachConsumer (free_replyStep? b s) h
  | some r =>
    obtain ⟨s₁, connection⟩ := r
    have hmoved : Moved s b s₁ { b with connection } := by
      refine moved_connection (onward_redial? hdial) fun habsent => ?_
      rw [redial?_of_absent habsent] at hdial
      cases hdial
    simp only [hdial, Option.some.injEq, Prod.mk.injEq] at h
    obtain ⟨rfl, rfl⟩ := h
    split
    · exact hmoved.announce
    · exact hmoved

theorem loop_perform_lose (c : Connection) (s : Scene) (link : Amqp.LinkId) (reason : String) :
    (c.perform s (.lose link reason)).loop = c.loop := by
  unfold Connection.perform
  cases hstep : c.step s.now (.lose link reason) with
  | none => rfl
  | some c' =>
    cases Connection.stepped_of_step hstep
    rfl

theorem moved_hearNews (h : s.Onward s') (b : Bus) (news : Amqp.News) :
    Moved s b s' (b.hearNews s' news) := by
  cases news with
  | linkLost link =>
    exact moved_connection h fun habsent => (loop_perform_lose _ _ _ _).trans habsent
  | channelClosed channel =>
    refine { moved_elsewhere h b with consumers := ?_ }
    refine List.forall₂_map_right_iff.2 (List.forall₂_same.2 fun c _ => ?_)
    split
    · exact (uncalled_elsewhere h c).trans (uncalled_channelClosed s' c)
    · exact uncalled_elsewhere h c

/-! ## The calls on several consumers -/

/-- What one step of some calls can be. -/
inductive CallsStepped (s : Scene) (b : Bus) (k : Nat) (c : Series) : Scene → Bus → Prop where
  /-- The call under way has returned. -/
  | returned {i call : Nat} {consumer : Consumer} {r : Outcome} {s' : Scene}
      (hcurrent : c.current = some (i, call)) (hconsumer : b.consumers[i]? = some consumer)
      (hr : consumer.result? call = some r) (honward : s.Onward s') :
      CallsStepped s b k c s' { b with series := b.series.set k (c.afterReturn r) }
  /-- There is nobody left to be called. -/
  | ended {s' : Scene} (hcurrent : c.current = none) (htodo : c.todo = []) (honward : s.Onward s') :
      CallsStepped s b k c s' { b with series := b.series.set k { c with isOver := true } }
  /-- The next consumer is called. -/
  | called {i : Nat} {todo : List Nat} {consumer consumer' : Consumer} {s' : Scene}
      (hcurrent : c.current = none) (htodo : c.todo = i :: todo)
      (hconsumer : b.consumers[i]? = some consumer)
      (hstep : consumer.step s c.kind.label = some (s', consumer')) :
      CallsStepped s b k c s' { b.setConsumer i consumer' with
        series := b.series.set k { c with todo, current := some (i, consumer.calls) } }

theorem onward_report (c : Series) (records : List LogRecord) (s : Scene) :
    s.Onward (c.report records s) := by
  unfold Series.report
  split
  · exact Scene.onward_log s records
  · exact Scene.onward_refl s

theorem callsStepped_of_seriesStep? {k : Nat} (h : b.seriesStep? s k = some (s', b')) :
    ∃ c, b.series[k]? = some c ∧ c.isOver = false ∧ CallsStepped s b k c s' b' := by
  obtain ⟨c, hc, h⟩ := Option.bind_eq_some_iff.1 h
  dsimp only at h
  split at h
  · cases h
  · next hopen =>
    refine ⟨c, hc, by simpa using hopen, ?_⟩
    split at h
    · next i call hcurrent =>
      obtain ⟨consumer, hconsumer, h⟩ := Option.bind_eq_some_iff.1 h
      obtain ⟨r, hr, h⟩ := Option.bind_eq_some_iff.1 h
      obtain ⟨rfl, rfl⟩ := Prod.mk.inj (Option.some.inj h)
      exact .returned hcurrent hconsumer hr (onward_report c _ s)
    · next hcurrent =>
      split at h
      · next htodo =>
        obtain ⟨rfl, rfl⟩ := Prod.mk.inj (Option.some.inj h)
        have hreport := onward_report c (c.endReports b.consumers.length) s
        refine .ended hcurrent htodo ?_
        split
        · exact hreport.trans (Scene.onward_of_same rfl rfl)
        · exact hreport
      · next i todo htodo =>
        obtain ⟨consumer, hconsumer, h⟩ := Option.bind_eq_some_iff.1 h
        obtain ⟨⟨s₁, consumer'⟩, hstep, h⟩ := Option.bind_eq_some_iff.1 h
        obtain ⟨rfl, rfl⟩ := Prod.mk.inj (Option.some.inj h)
        refine .called hcurrent htodo hconsumer ?_
        cases hkind : c.kind <;> simpa only [hkind, SeriesKind.label] using hstep

theorem CallsStepped.onward {k : Nat} {c : Series} (h : CallsStepped s b k c s' b') :
    s.Onward s' := by
  cases h with
  | returned _ _ _ honward | ended _ _ honward => exact honward
  | called _ _ _ hstep => exact (Consumer.leads_step hstep).onward

/-! ## What a step is to a bus -/

/-- What becomes of a bus in a step of an application. -/
inductive Next (s : Scene) (b : Bus) (s' : Scene) (b' : Bus) : Prop where
  | moved (h : Moved s b s' b')
  /-- It goes on with calls on several consumers. -/
  | called {k : Nat} {c : Series} (hc : b.series[k]? = some c) (hopen : c.isOver = false)
      (h : CallsStepped s b k c s' b')

theorem next_of_promptStep? (h : b.promptStep? s = some (s', b')) : Next s b s' b' := by
  rcases Option.or_eq_some_iff.1 h with h | ⟨-, h⟩
  · obtain ⟨k, -, h⟩ := List.exists_of_findSome?_eq_some h
    obtain ⟨c, hc, hopen, h⟩ := callsStepped_of_seriesStep? h
    exact .called hc hopen h
  · exact .moved (moved_eachConsumer (free_callStep? b s) h)

theorem Next.onward (h : Next s b s' b') : s.Onward s' := by
  cases h with
  | moved h => exact h.scene
  | called _ _ h => exact h.onward

/-- No loop is begun. -/
theorem Next.loop (h : Next s b s' b') (habsent : b.connection.loop = .absent) :
    b'.connection.loop = .absent := by
  cases h with
  | moved h => exact h.loop habsent
  | called _ _ h => cases h <;> exact habsent

end Bus

namespace Application

variable {a a' : Application}

/-- What becomes of the scene and of the buses in a step. -/
structure Moved (a a' : Application) : Prop where
  scene : a.scene.Onward a'.scene
  buses : List.Forall₂ (fun b b' => Bus.Next a.scene b a'.scene b') a.buses a'.buses

theorem moved_of_scene {s : Scene} (h : a.scene.Onward s) : Moved a { a with scene := s } where
  scene := h
  buses := List.forall₂_same.2 fun b _ => .moved (Bus.moved_elsewhere h b)

theorem moved_eachBus {f : Scene → Bus → Option (Scene × Bus)}
    (hf : ∀ s b s' b', f s b = some (s', b') → Bus.Next s b s' b')
    (h : a.eachBus f = some a') : Moved a a' := by
  obtain ⟨i, -, hi⟩ := List.exists_of_findSome?_eq_some h
  obtain ⟨b, hb, hi⟩ := Option.bind_eq_some_iff.1 hi
  obtain ⟨⟨s, b'⟩, hstep, hi⟩ := Option.bind_eq_some_iff.1 hi
  obtain rfl := Option.some.inj hi
  have hnext := hf a.scene b s b' hstep
  exact ⟨hnext.onward, Bus.forall₂_set
    (fun x _ => .moved (Bus.moved_elsewhere hnext.onward x)) hb hnext⟩

/-- A step is one of a bus, or the buses hear something, or somebody else asks the broker for
something. -/
theorem moved_of_step (h : a.step? = some a') : Moved a a' := by
  simp only [step?, Option.or_eq_some_iff] at h
  rcases h with h | ⟨-, h | ⟨-, h | ⟨-, h | ⟨-, h | ⟨-, h⟩⟩⟩⟩⟩
  · exact moved_eachBus (fun s b s' b' => Bus.next_of_promptStep?) h
  · unfold newsStep? at h
    split at h
    · cases h
    · next news rest _ =>
      obtain rfl := Option.some.inj h
      have honward := Scene.onward_broker a.scene { a.scene.broker with news := rest }
      exact ⟨honward, List.forall₂_map_right_iff.2
        (List.forall₂_same.2 fun b _ => .moved (Bus.moved_hearNews honward b news))⟩
  · exact moved_eachBus (fun s b s' b' h => .moved (Bus.moved_backgroundStep? h)) h
  · obtain ⟨channel, -, h⟩ := Option.bind_eq_some_iff.1 h
    obtain rfl := Option.some.inj h
    exact moved_of_scene (Scene.onward_broker a.scene _)
  · obtain ⟨link, -, h⟩ := Option.bind_eq_some_iff.1 h
    obtain rfl := Option.some.inj h
    exact moved_of_scene (Scene.onward_broker a.scene _)
  · exact moved_eachBus (fun s b s' b' h => .moved (Bus.moved_brokerStep? h)) h

/-! ## What the broker begins -/

/-- What comes on a channel is taken up by no call. -/
theorem moved_handOver (a : Application) (channel : Amqp.ChannelId) (item : StreamItem) :
    Moved a (a.handOver channel item) where
  scene := Scene.onward_refl _
  buses := by
    refine List.forall₂_map_right_iff.2 (List.forall₂_same.2 fun b _ => .moved ?_)
    refine { Bus.moved_elsewhere (Scene.onward_refl _) b with consumers := ?_ }
    refine List.forall₂_map_right_iff.2 (List.forall₂_same.2 fun c _ => ?_)
    split
    · refine Consumer.Site.uncalled_getD rfl fun s' c' h => ?_
      simp only [Consumer.step, Crew.step, Option.map_some, Option.some.injEq, Prod.mk.injEq] at h
      exact h.1.symm
    · exact Consumer.Site.uncalled_refl _

/-- What every step preserves is preserved when something comes on a channel. -/
theorem deliver_preserves {P : Application → Prop} (hP : ∀ a a', Moved a a' → P a → P a')
    (ha : P a) (queue : String) (d : Delivery) : P (a.deliver queue d).2 := by
  have hbroker (broker : Amqp.Broker) : P { a with scene := { a.scene with broker } } :=
    hP _ _ (moved_of_scene (Scene.onward_broker a.scene broker)) ha
  unfold deliver sendToLast
  split
  · exact ha
  · dsimp only
    split
    · exact ha
    · exact hbroker _
    · split
      · exact hP _ _ (moved_handOver _ _ _) (hbroker _)
      · exact hbroker _

/-! ## Runs -/

/-- An application comes from another one by steps, by waits, by tokens that are cancelled, and by
what the broker begins. -/
inductive Reaches : Application → Application → Prop where
  | refl (a : Application) : Reaches a a
  | step {a a' a'' : Application} (hstep : a.step? = some a') (h : Reaches a' a'') : Reaches a a''
  | wait {a a' : Application} (time : Nat) (h : Reaches (a.notBefore time) a') : Reaches a a'
  | cancel {a a' : Application} (token : Token)
      (h : Reaches { a with scene := a.scene.cancel token } a') : Reaches a a'
  /-- The broker sends something to the last subscription of a queue. -/
  | deliver {a a' : Application} (queue : String) (d : Delivery)
      (h : Reaches (a.deliver queue d).2 a') : Reaches a a'
  /-- The broker closes a channel, cuts a link or comes into any other state by itself. -/
  | broker {a a' : Application} (broker : Amqp.Broker)
      (h : Reaches { a with scene := { a.scene with broker } } a') : Reaches a a'

/-- What every step preserves is preserved by runs. -/
theorem Reaches.preserves {P : Application → Prop} (h : Reaches a a')
    (hP : ∀ a a', Moved a a' → P a → P a') (ha : P a) : P a' := by
  induction h with
  | refl a => exact ha
  | step hstep _ ih => exact ih (hP _ _ (moved_of_step hstep) ha)
  | wait time _ ih => exact ih (hP _ _ (moved_of_scene (Scene.onward_notBefore _ time)) ha)
  | cancel token _ ih => exact ih (hP _ _ (moved_of_scene (Scene.onward_cancel _ token)) ha)
  | deliver queue d _ ih => exact ih (deliver_preserves hP ha queue d)
  | broker broker _ ih => exact ih (hP _ _ (moved_of_scene (Scene.onward_broker _ broker)) ha)

theorem Reaches.length_buses (h : Reaches a a') : a'.buses.length = a.buses.length :=
  h.preserves (P := fun a' => a'.buses.length = a.buses.length)
    (fun _ _ hmoved ha => hmoved.buses.length_eq.symm.trans ha) rfl

/-- What every step preserves of a scene and a bus is preserved by runs. -/
theorem Reaches.bus {P : Scene → Bus → Prop} (h : Reaches a a')
    (hP : ∀ s b s' b', Bus.Next s b s' b' → P s b → P s' b') {i : Nat} {b : Bus}
    (hb : a.buses[i]? = some b) (hPb : P a.scene b) :
    ∃ b', a'.buses[i]? = some b' ∧ P a'.scene b' := by
  refine h.preserves (P := fun a => ∃ b, a.buses[i]? = some b ∧ P a.scene b) ?_ ⟨b, hb, hPb⟩
  rintro a a' hmoved ⟨b, hb, hPb⟩
  obtain ⟨hi, rfl⟩ := List.getElem?_eq_some_iff.1 hb
  have hi' : i < a'.buses.length := hmoved.buses.length_eq ▸ hi
  exact ⟨a'.buses[i], List.getElem?_eq_getElem hi', hP _ _ _ _ (hmoved.buses.get hi hi') hPb⟩

theorem reaches_runUntil (p : Application → Bool) (fuel : Nat) (a : Application) :
    Reaches a (runUntil p fuel a) := by
  induction fuel generalizing a with
  | zero => exact .refl a
  | succ fuel ih =>
    rw [runUntil]
    split
    · exact .refl a
    · split
      · next a' hstep => exact .step hstep (ih a')
      · split
        · next time _ => exact .wait time (ih _)
        · exact .refl a

end Application

end MessageBus
