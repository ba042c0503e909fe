import MessageBus.Proofs.Connection.Closing

/-!
# Whether a connection knows that it is up

A connection whose loop is at work knows of the failure of its link as soon as the loop has taken
it, and is down until a dial comes through. It knows nothing of it without a loop: nobody takes the
failure then, and the connection is still reported to be up (`unheeded_failure`). Main statement:
`follow_law`.
-/

set_option autoImplicit false

namespace MessageBus

/-- Whether the loop has taken a failure and has not dialed with success since. -/
def LoopPhase.isRecovering : LoopPhase → Bool
  | .dialing | .resting _ => true
  | _ => false

namespace Connection

/-- Whether an event is that somebody asks for a link. -/
def Event.isConnect : Event → Bool
  | .own (.connect _) => true
  | _ => false

/-- Whether an event is that somebody closes the connection. -/
def Event.isClose : Event → Bool
  | .own (.close _ _) => true
  | _ => false

/-- Whether an event is that somebody asks for the loop. -/
def Event.isStartLoop : Event → Bool
  | .own .startLoop => true
  | _ => false

/-- The link in use has reported its failure. -/
def LinkLost (c : Connection) : Prop := ∃ link, c.link = some link ∧ link ∈ c.lost

/-- The loop cannot go on by itself: it neither ends, nor takes a failure, nor stops resting. -/
def AtRest (now : Nat) (c : Connection) : Prop :=
  ∀ l ∈ [Label.leave, .takeFailure, .wake], c.step now l = none

/-- A connection that was dialed once, with its loop if the settings want one. -/
def opened (settings : Settings) (link : Amqp.LinkId) : Connection :=
  let c := ({ settings : Connection }.install link).answerTo 0 (.ok ())
  if settings.reconnecting then { c with loop := .waiting } else c

/-- Where settings want no loop the link of a connection reports its failure to nobody: nothing can
go on, and the connection is still reported to be up. -/
theorem unheeded_failure :
    let w := ({ connection := opened { reconnecting := false } 0 } : Site).next
      (.own (.lose 0 lostReason))
    LinkLost w.connection ∧ AtRest w.now w.connection ∧ w.connection.isConnected = true ∧
      w.connection.health = .ok () :=
  ⟨⟨0, rfl, by decide⟩, by simp [AtRest, step, Site.next, Site.took, opened, install, answerTo],
    rfl, rfl⟩

variable {now : Nat} {c c' : Connection} {l : Label} {w w' : Site} {e : Event}
  {settings : Settings}

/-! ## Opening -/

/-- A connection that is opened was dialed once. -/
theorem exists_opened_of_establish {s s' : Scene}
    (h : establish settings s = (.ok c, s')) : ∃ link, c = opened settings link := by
  obtain ⟨link?, s'', hconnect⟩ : ∃ link? s'', connect { settings } s =
      match link? with
      | some link => (.ok (), ({ settings : Connection }.install link).answerTo 0 (.ok ()), s'')
      | none => (.error unreachableError,
          { settings : Connection }.answerTo 0 (.error unreachableError), s'') := by
    simp only [connect, perform, step, nextCall, result?, answerTo]
    generalize dial _ s = d
    obtain ⟨link | link, s''⟩ := d
    · exact ⟨none, s'', rfl⟩
    · exact ⟨some link, s'', rfl⟩
  unfold establish at h
  rw [hconnect] at h
  cases link? with
  | none => cases h
  | some link =>
    refine ⟨link, ?_⟩
    obtain ⟨hc, -⟩ := Prod.mk.inj h
    rw [← Except.ok.inj hc]
    simp [opened, perform, step, install, answerTo]

/-! ## What comes of a failure -/

/-- The failures of links are taken, or they are queued. -/
structure Noticing (c : Connection) : Prop where
  linked : ∀ link, c.link = some link → link ∈ c.links
  known : ∀ link ∈ c.lost, link ∈ c.links
  queued : LinkLost c → c.isConnected = true → c.failures ≠ []

theorem Noticing.of_same (h : Noticing c) (hlink : c'.link = c.link) (hlinks : c'.links = c.links)
    (hlost : c'.lost = c.lost) (hup : c'.isConnected = true → c.isConnected = true)
    (hfailures : c.failures ≠ [] → c'.failures ≠ [] ∨ c'.isConnected = false) : Noticing c' := by
  refine ⟨?_, ?_, ?_⟩
  · rw [hlink, hlinks]
    exact h.linked
  · rw [hlinks, hlost]
    exact h.known
  · rintro ⟨link, hlink', hmem⟩ hup'
    rw [hlink] at hlink'
    rw [hlost] at hmem
    refine (hfailures (h.queued ⟨link, hlink', hmem⟩ (hup hup'))).resolve_right ?_
    simp [hup']

/-- A new link has reported nothing. -/
theorem Noticing.install (h : Noticing c) {link : Amqp.LinkId} (hnew : link ∉ c.links) :
    Noticing (c.install link) := by
  refine ⟨?_, ?_, ?_⟩
  · rintro _ ⟨⟩
    simp [Connection.install]
  · intro link' hlost
    exact List.mem_append_left _ (h.known link' hlost)
  · rintro ⟨_, ⟨⟩, hlost⟩
    exact absurd (h.known link hlost) hnew

theorem Noticing.stepped (h : Noticing c) (hs : Stepped now c l c') : Noticing c' := by
  cases hs with
  | refused | asked | unlinked | begins | begun | rests | wakes | leaves | closedAgain | hungUp =>
    exact h.of_same rfl rfl rfl id .inl
  | linked _ hnew | relinked _ hnew =>
    exact (h.install hnew).of_same rfl rfl rfl id .inl
  | lost hlink =>
    refine ⟨h.linked, ?_, fun _ _ => by simp⟩
    intro link' hlost
    rcases List.mem_append.1 hlost with hlost | hlost
    · exact h.known link' hlost
    · exact List.mem_singleton.1 hlost ▸ hlink
  | reported => exact h.of_same rfl rfl rfl id fun _ => .inl (by simp)
  | takes => exact h.of_same rfl rfl rfl (fun hup => nomatch hup) fun _ => .inr rfl
  | hangsUp | closes =>
    exact ⟨fun link hlink => (nomatch hlink), h.known, fun hlost => (nomatch hlost.choose_spec.1)⟩

/-! ## While the loop is at work -/

/-- Nobody but the loop dials a connection, and while the loop recovers it is down. -/
structure Alone (c : Connection) : Prop where
  undialed : c.dialing = []
  recovering : c.loop.isRecovering = true → c.isConnected = false

theorem Alone.stepped (h : Alone c) (hs : Stepped now c l c')
    (hconnect : (Event.own l).isConnect = false) : Alone c' := by
  cases hs with
  | refused | asked => cases hconnect
  | linked hcall | unlinked hcall =>
    rw [h.undialed] at hcall
    cases hcall
  | begun | lost | reported | closedAgain | hungUp => exact ⟨h.undialed, h.recovering⟩
  | begins | relinked | leaves => exact ⟨h.undialed, fun hloop => nomatch hloop⟩
  | takes | hangsUp | closes => exact ⟨h.undialed, fun _ => rfl⟩
  | rests hdialing =>
    refine ⟨h.undialed, fun _ => h.recovering ?_⟩
    rw [hdialing]
    rfl
  | wakes hresting =>
    refine ⟨h.undialed, fun _ => h.recovering ?_⟩
    rw [hresting]
    rfl

theorem Alone.after (h : Alone w.connection) {es : List Event}
    (hes : ∀ e ∈ es, e.isConnect = false) : Alone (w.after es).connection :=
  List.foldlRecOn (motive := fun w => Alone w.connection) es Site.next h
    fun w hw e he => (happened_next w e).keeps (P := Alone) hw fun _ _ heq hs =>
      hw.stepped hs (heq ▸ hes e he)

/-- A connection with a loop that nobody else dials and nobody has closed. -/
structure Looping (c : Connection) : Prop where
  noticing : Noticing c
  alone : Alone c
  isOpen : c.isClosed = false
  loop : c.loop = .waiting ∨ c.loop.isRecovering = true

theorem Looping.stepped (h : Looping c) (hs : Stepped now c l c')
    (hconnect : (Event.own l).isConnect = false) (hclose : (Event.own l).isClose = false) :
    Looping c' := by
  have hnoticing := h.noticing.stepped hs
  have halone := h.alone.stepped hs hconnect
  cases hs with
  | refused | asked => cases hconnect
  | closedAgain | hangsUp | closes => cases hclose
  | linked hcall | unlinked hcall =>
    rw [h.alone.undialed] at hcall
    cases hcall
  | leaves hclosed =>
    rw [h.isOpen] at hclosed
    cases hclosed
  | begins habsent =>
    have hloop := h.loop
    rw [habsent] at hloop
    rcases hloop with hloop | hloop <;> cases hloop
  | begun | lost | reported | hungUp => exact ⟨hnoticing, halone, h.isOpen, h.loop⟩
  | takes | wakes =>
    refine ⟨hnoticing, halone, h.isOpen, .inr ?_⟩
    simp [redial_loop, h.isOpen, LoopPhase.isRecovering]
  | relinked => exact ⟨hnoticing, halone, h.isOpen, .inl rfl⟩
  | rests => exact ⟨hnoticing, halone, h.isOpen, .inr rfl⟩

theorem Looping.after (h : Looping w.connection) {es : List Event}
    (hes : ∀ e ∈ es, e.isConnect = false ∧ e.isClose = false) :
    Looping (w.after es).connection :=
  List.foldlRecOn (motive := fun w => Looping w.connection) es Site.next h
    fun w hw e he => (happened_next w e).keeps (P := Looping) hw fun _ _ heq hs =>
      hw.stepped hs (heq ▸ (hes e he).1) (heq ▸ (hes e he).2)

/-- A loop that cannot go on has noticed the failure of the link in use. -/
theorem Looping.isConnected (h : Looping c) (hrest : AtRest now c) (hlost : LinkLost c) :
    c.isConnected = false := by
  rcases h.loop with hwaiting | hrecovering
  · -- a loop that waits and cannot go on has taken all failures
    have hnone : c.failures = [] := by
      have htake := hrest .takeFailure (by simp)
      cases hfailures : c.failures with
      | nil => rfl
      | cons reason rest => simp [step, hwaiting, hfailures] at htake
    cases hup : c.isConnected with
    | false => rfl
    | true => exact absurd hnone (h.noticing.queued hlost hup)
  · exact h.alone.recovering hrecovering

/-- A loop that can go on cannot go on twice. -/
theorem atRest_of_stepped (hl : l ∈ [Label.leave, .takeFailure, .wake]) (hs : Stepped now c l c') :
    AtRest now c' := by
  have hloop : c'.loop = .dialing ∨ c'.loop = .ended := by
    cases hs with
    | takes | wakes =>
      rw [redial_loop]
      split
      · exact .inr rfl
      · exact .inl rfl
    | leaves => exact .inr rfl
    | _ => simp at hl
  intro l' hl'
  simp only [List.mem_cons, List.not_mem_nil, or_false] at hl'
  rcases hl' with rfl | rfl | rfl <;> rcases hloop with hloop | hloop <;> simp [step, hloop]

/-! ## Until a dial comes through -/

/-- A step that is not the end of a dial brings no connection up. -/
theorem Stepped.isConnected (hs : Stepped now c l c') (hl : l.comesThrough = false)
    (h : c.isConnected = false) : c'.isConnected = false := by
  cases hs with
  | linked | relinked => cases hl
  | _ => first | exact h | rfl

/-- A dial that comes through brings the connection up. -/
theorem isConnected_of_arrived (h : w.arrived e ≠ 0) :
    (w.next e).connection.isConnected = true := by
  have hw := happened_next w e
  generalize w.next e = w' at hw
  cases hw with
  | missed hnone => simp [Site.arrived, hnone] at h
  | around hown =>
    cases e with
    | own l => exact absurd rfl (hown l)
    | pass | subscribe | read => exact absurd rfl h
  | @took l c' htook hs =>
    have hl : l.comesThrough = true := by simpa [Site.arrived, htook] using h
    cases hs with
    | linked | relinked => rfl
    | _ => cases hl

/-! ## The law -/

/-- A connection that is up without a loop, and that nobody has closed. -/
structure Unheeding (c : Connection) : Prop where
  loop : c.loop = .absent
  isOpen : c.isClosed = false
  isConnected : c.isConnected = true

theorem Unheeding.stepped (h : Unheeding c) (hs : Stepped now c l c')
    (hloop : (Event.own l).isStartLoop = false) (hclose : (Event.own l).isClose = false) :
    Unheeding c' := by
  cases hs with
  | begins | begun => cases hloop
  | closedAgain | hangsUp | closes => cases hclose
  | takes hother | relinked hother | rests hother | wakes hother =>
    rw [h.loop] at hother
    cases hother
  | leaves hclosed =>
    rw [h.isOpen] at hclosed
    cases hclosed
  | refused | asked | unlinked | lost | reported | hungUp =>
    exact ⟨h.loop, h.isOpen, h.isConnected⟩
  | linked => exact ⟨h.loop, h.isOpen, rfl⟩

theorem Unheeding.after (h : Unheeding w.connection) {es : List Event}
    (hes : ∀ e ∈ es, e.isStartLoop = false ∧ e.isClose = false) :
    Unheeding (w.after es).connection :=
  List.foldlRecOn (motive := fun w => Unheeding w.connection) es Site.next h
    fun w hw e he => (happened_next w e).keeps (P := Unheeding) hw fun _ _ heq hs =>
      hw.stepped hs (heq ▸ (hes e he).1) (heq ▸ (hes e he).2)

/-- What holds of a connection that was opened, in all histories in which nobody closes it. -/
structure FollowLaw (settings : Settings) (start : Site) : Prop where
  /-- Connections are opened in no other way. -/
  opens : ∀ s c s', establish settings s = (.ok c, s') → ∃ link, c = opened settings link
  /-- With a loop, and while nobody else dials: once the link in use has reported its failure and
  the loop cannot go on the connection is down, and stays so until a dial comes through. -/
  down : settings.reconnecting = true → ∀ es,
    (∀ e ∈ es, e.isConnect = false ∧ e.isClose = false) →
    AtRest (start.after es).now (start.after es).connection →
    LinkLost (start.after es).connection →
    ∀ es', (start.after es).arrivals es' = 0 →
      ((start.after es).after es').connection.isConnected = false
  /-- The loop goes on once at most until it cannot. -/
  rests : ∀ es, ∀ l ∈ [Label.leave, .takeFailure, .wake], ∀ c,
    (start.after es).connection.step (start.after es).now l = some c →
    AtRest (start.after es).now c
  /-- A dial that comes through brings the connection up. -/
  up : ∀ es e, (start.after es).arrived e ≠ 0 →
    ((start.after es).next e).connection.isConnected = true
  /-- The health report says the same. -/
  health : ∀ es, (start.after es).connection.health =
    if (start.after es).connection.isConnected then .ok ()
    else .error (.connection "rabbitmq is not connected")
  /-- Without a loop the connection is up, whatever fails, as long as nobody asks for one. -/
  unheeding : settings.reconnecting = false → ∀ es,
    (∀ e ∈ es, e.isStartLoop = false ∧ e.isClose = false) →
    (start.after es).connection.isConnected = true

theorem looping_opened (link : Amqp.LinkId) (h : settings.reconnecting = true) :
    Looping (opened settings link) := by
  simp only [opened, h, if_true]
  refine ⟨⟨?_, fun _ hlost => (nomatch hlost), ?_⟩, ⟨rfl, fun hloop => (nomatch hloop)⟩, rfl,
    .inl rfl⟩
  · rintro _ ⟨⟩
    simp [answerTo, install]
  · rintro ⟨_, _, hlost⟩
    cases hlost

theorem unheeding_opened (link : Amqp.LinkId) (h : settings.reconnecting = false) :
    Unheeding (opened settings link) := by
  simp only [opened, h, Bool.false_eq_true, if_false]
  exact ⟨rfl, rfl, rfl⟩

/-- A connection that was opened with a loop knows of every failure of its link, and it is up again
as soon as a dial comes through. One that was opened without a loop never learns of a failure. -/
theorem follow_law (settings : Settings) (link : Amqp.LinkId) (now : Nat)
    (receivers : List Backlog) : FollowLaw settings ⟨now, opened settings link, receivers⟩ where
  opens _ _ _ h := exists_opened_of_establish h
  down hreconnecting es hes hrest hlost es' hes' := by
    have hlooping := (looping_opened link hreconnecting).after (w := ⟨now, _, receivers⟩) hes
    have hdown := hlooping.isConnected hrest hlost
    exact after_of_arrivals (fun _ _ _ _ hs hl h => hs.isConnected hl h) hdown hes'
  rests es l hl c hstep := atRest_of_stepped hl (stepped_of_step hstep)
  up es e h := isConnected_of_arrived h
  health es := rfl
  unheeding hreconnecting es hes :=
    ((unheeding_opened link hreconnecting).after (w := ⟨now, _, receivers⟩) hes).isConnected

end Connection

end MessageBus
