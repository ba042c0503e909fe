import MessageBus.Proofs.Consumer.Oversight

/-!
# Consumers that are called once at most

A consumer goes on by itself between the calls on it: its workers work, and its watchers rebuild.
One that was never called has nothing (`Uncalled.untouched`). One that was started once has what the
start has left when it returned, a subscription or an error (`StartedWith.leftSince`), and all its
workers and watchers are sent away as soon as the token is cancelled that the start was given
(`OnlyStarted.sentAway`).
-/

set_option autoImplicit false

namespace MessageBus.Consumer

/-- Whether an event is the beginning of a start or of a stop. -/
def Event.isCall (e : Event) : Bool := e.isStart || e.isStop

theorem Event.isStop_of_isCall {e : Event} (h : e.isCall = false) : e.isStop = false :=
  (Bool.or_eq_false_iff.1 h).2

theorem Event.isStart_of_isCall {e : Event} (h : e.isCall = false) : e.isStart = false :=
  (Bool.or_eq_false_iff.1 h).1

theorem Event.ne_start_of_isCall {e : Event} (h : e.isCall = false) (token : Token) :
    e ≠ .own (.start token) := by
  rintro rfl
  cases h

namespace Site

/-! ## Histories without calls -/

theorem isOrderly_append (w : Site) (es es' : List Event) :
    w.isOrderly (es ++ es') = (w.isOrderly es && (w.after es).isOrderly es') := by
  induction es generalizing w with
  | nil => rfl
  | cons e es ih =>
    rw [List.cons_append, isOrderly, isOrderly, ih, Bool.and_assoc]
    rfl

/-- One site comes after another, and nobody has called the consumer in between. -/
def Uncalled (w w' : Site) : Prop :=
  ∃ es, w.isOrderly es = true ∧ (∀ e ∈ es, e.isCall = false) ∧ w.after es = w'

variable {w w' w'' : Site} {s s' : Scene} {c c' : Consumer} {l : Label}

theorem uncalled_refl (w : Site) : w.Uncalled w := ⟨[], rfl, by simp, rfl⟩

theorem Uncalled.trans (h : w.Uncalled w') (h' : w'.Uncalled w'') : w.Uncalled w'' := by
  obtain ⟨es, horderly, hcalls, rfl⟩ := h
  obtain ⟨es', horderly', hcalls', rfl⟩ := h'
  refine ⟨es ++ es', ?_, ?_, List.foldl_append⟩
  · rw [isOrderly_append, horderly, horderly']
    rfl
  · intro e he
    exact (List.mem_append.1 he).elim (hcalls e) (hcalls' e)

/-- A step of the consumer itself. -/
theorem uncalled_of_step (hl : (Event.own l).isCall = false) (h : c.step s l = some (s', c')) :
    Uncalled ⟨s, c⟩ ⟨s', c'⟩ := by
  refine ⟨[.own l], ?_, by simpa using hl, ?_⟩
  · cases l
    case start => cases hl
    all_goals rfl
  · simp [after, next, step?, h]

/-- Something that happens elsewhere. -/
theorem uncalled_elsewhere (h : s.Onward s') (c : Consumer) : Uncalled ⟨s, c⟩ ⟨s', c⟩ := by
  classical
  let change : Change :=
    { apply := fun x => if x = s then s' else x
      later := fun x => by
        split
        · next heq => exact heq ▸ h.later
        · exact Scene.later_refl x }
  have happly : change.apply s = s' := if_pos rfl
  refine ⟨[.elsewhere change], ?_, by simp [Event.isCall, Event.isStart, Event.isStop], ?_⟩
  · simp only [isOrderly, handlesTokens, happly, Bool.and_true]
    exact List.isPrefixOf_iff_prefix.2 h.lineage
  · simp [after, next, happly]

/-- A step that is taken if it can be, and that leaves the scene alone. -/
theorem uncalled_getD (hl : (Event.own l).isCall = false)
    (hscene : ∀ s' c', c.step s l = some (s', c') → s' = s) :
    Uncalled ⟨s, c⟩ ⟨s, ((c.step s l).map Prod.snd).getD c⟩ := by
  cases hstep : c.step s l with
  | none => exact uncalled_refl _
  | some r =>
    obtain ⟨s', c'⟩ := r
    obtain rfl := hscene s' c' hstep
    exact uncalled_of_step hl hstep

theorem later_after (w : Site) (es : List Event) : w.scene.Later (w.after es).scene :=
  List.foldlRecOn (motive := fun w' => w.scene.Later w'.scene) es next (Scene.later_refl _)
    fun w' h e _ => h.trans (happened_next w' e).later

end Site

/-! ## Results -/

/-- A result does not change any more. -/
theorem Happened.result? {w w' : Site} {e : Event} (h : Happened w e w') {call : Nat}
    {r : Outcome} (hr : w.consumer.result? call = some r) : w'.consumer.result? call = some r := by
  cases h with
  | missed | elsewhere | told => exact hr
  | took _ hstepped =>
    rcases hstepped.returned with hsame | ⟨_, hreturned⟩
    · rw [Consumer.result?, hsame]
      exact hr
    · obtain ⟨_, hmore⟩ := hreturned.returned
      rw [Consumer.result?, hmore, List.lookup_append]
      rw [Consumer.result?] at hr
      rw [hr, Option.some_or]

theorem mem_of_result? {c : Consumer} {call : Nat} {r : Outcome} (h : c.result? call = some r) :
    (call, r) ∈ c.returned := by
  obtain ⟨before, rest, hsplit, -⟩ := List.lookup_eq_some_iff.1 h
  rw [hsplit]
  exact List.mem_append_right _ List.mem_cons_self

namespace Site

variable {w w' w'' : Site} {token : Token} {call : Nat} {result : Outcome}

theorem Uncalled.result? (h : w.Uncalled w') (hr : w.consumer.result? call = some result) :
    w'.consumer.result? call = some result := by
  obtain ⟨es, -, -, rfl⟩ := h
  exact List.foldlRecOn (motive := fun w => w.consumer.result? call = some result) es next hr
    fun w hw e _ => (happened_next w e).result? hw

/-! ## Histories with one call -/

/-- Between two sites, the consumer was called once: it was started with a token, as call number
`call`. -/
def StartedOnce (token : Token) (call : Nat) (w w' : Site) : Prop :=
  ∃ u, w.Uncalled u ∧ u.consumer.calls = call ∧ (u.next (.own (.start token))).Uncalled w'

/-- Between two sites, the consumer was started once, and the start has returned a result. -/
def StartedWith (token : Token) (result : Outcome) (w w' : Site) : Prop :=
  ∃ call, StartedOnce token call w w' ∧ w'.consumer.result? call = some result

theorem StartedOnce.trans (h : StartedOnce token call w w') (h' : w'.Uncalled w'') :
    StartedOnce token call w w'' := by
  obtain ⟨u, hu, hcall, hstarted⟩ := h
  exact ⟨u, hu, hcall, hstarted.trans h'⟩

theorem StartedWith.trans (h : StartedWith token result w w') (h' : w'.Uncalled w'') :
    StartedWith token result w w'' := by
  obtain ⟨call, hstarted, hresult⟩ := h
  exact ⟨call, hstarted.trans h', h'.result? hresult⟩

/-- Between two sites, all starts of the consumer were given one token. -/
def OnlyStarted (token : Token) (w w' : Site) : Prop :=
  ∃ es, w.isOrderly es = true ∧ (∀ t, .own (.start t) ∈ es → t = token) ∧ w.after es = w'

theorem Uncalled.onlyStarted (h : w.Uncalled w') (token : Token) : OnlyStarted token w w' := by
  obtain ⟨es, hes, hcalls, rfl⟩ := h
  exact ⟨es, hes, fun t ht => absurd rfl (Event.ne_start_of_isCall (hcalls _ ht) t), rfl⟩

theorem StartedOnce.onlyStarted (h : StartedOnce token call w w')
    (htoken : token < w.scene.tokens.nodes.length) : OnlyStarted token w w' := by
  obtain ⟨_, ⟨es, hes, hcalls, rfl⟩, -, ⟨es', hes', hcalls', rfl⟩⟩ := h
  refine ⟨es ++ .own (.start token) :: es', ?_, fun t ht => ?_, List.foldl_append⟩
  · rw [isOrderly_append, hes, Bool.true_and, isOrderly, hes', Bool.and_true]
    exact decide_eq_true (Nat.lt_of_lt_of_le htoken (later_after w es).tokens)
  · rcases List.mem_append.1 ht with ht | ht
    · exact absurd rfl (Event.ne_start_of_isCall (hcalls _ ht) t)
    · rcases List.mem_cons.1 ht with ht | ht
      · exact Label.start.inj (Event.own.inj ht)
      · exact absurd rfl (Event.ne_start_of_isCall (hcalls' _ ht) t)

theorem OnlyStarted.settings (h : OnlyStarted token w w') :
    w'.consumer.settings = w.consumer.settings := by
  obtain ⟨es, -, -, rfl⟩ := h
  exact settings_after w es

/-! ## What a start leaves -/

/-- A start has left what belongs to its result when it returned, and nobody has called the consumer
since. -/
def LeftSince (result : Outcome) (w : Site) : Prop :=
  ∃ (before : Site) (l : Label) (u : Site) (setup : Except BusError (Amqp.ChannelId × String)),
    before.step? l = some u ∧ result = setup.map (fun _ => ()) ∧
      LeftWith before.consumer u.consumer setup ∧ u.Uncalled w

theorem unstopped_ofSettings (settings : ConsumerSettings) (registry : Registry)
    (observers : List String) : Unstopped (ofSettings settings registry observers) :=
  ⟨rfl, by simp [underWay, inLine, ofSettings]⟩

variable {s : Scene} {settings : ConsumerSettings} {registry : Registry} {observers : List String}

/-- Where nobody has stopped a consumer, a call that returns leaves what belongs to its result. -/
theorem left_of_returned {es : List Event} {l : Label} {first : Call}
    (hstops : ∀ e ∈ es, e.isStop = false)
    (hstep : ((⟨s, ofSettings settings registry observers⟩ : Site).after es).step? l = some w)
    (hreturned : Returned ((⟨s, ofSettings settings registry observers⟩ : Site).after es).consumer
      first l w.consumer) :
    ∃ setup, w.consumer.returned =
        ((⟨s, ofSettings settings registry observers⟩ : Site).after es).consumer.returned ++
          [(first.id, setup.map fun _ => ())] ∧
      LeftWith ((⟨s, ofSettings settings registry observers⟩ : Site).after es).consumer w.consumer
        setup := by
  set start : Site := ⟨s, ofSettings settings registry observers⟩ with hstart
  have hstaged : Staged start.scene start.consumer :=
    staged_ofSettings s settings registry observers
  have hinformed := informed_after (informed_ofSettings s settings registry observers) es
  rw [← settings_after _ es] at hinformed
  obtain ⟨-, setup, -, hlast, hleft⟩ := hreturned.left hstep (staged_after hstaged es)
    (unstopped_after hstaged (unstopped_ofSettings settings registry observers) hstops) hinformed
  exact ⟨setup, hlast, hleft⟩

/-- What follows a step in a history without calls. -/
theorem uncalled_of_append {before rest : List Event} {l : Label}
    (hes : w.isOrderly (before ++ .own l :: rest) = true)
    (hcalls : ∀ e ∈ before ++ .own l :: rest, e.isCall = false)
    (hstep : (w.after before).step? l = some w') :
    w'.Uncalled (w.after (before ++ .own l :: rest)) := by
  have hnext : (w.after before).next (.own l) = w' := by
    show ((w.after before).step? l).getD _ = w'
    rw [hstep]
    rfl
  rw [isOrderly_append, isOrderly, hnext] at hes
  simp only [Bool.and_eq_true] at hes
  refine ⟨rest, hes.2.2, fun e he => hcalls e ?_, ?_⟩
  · exact List.mem_append_right _ (List.mem_cons_of_mem _ he)
  · rw [← hnext, eq_comm]
    exact List.foldl_append

/-- The only call on a consumer leaves what belongs to its result. -/
theorem StartedWith.leftSince
    (h : StartedWith token result ⟨s, ofSettings settings registry observers⟩ w) :
    LeftSince result w := by
  obtain ⟨call, ⟨_, ⟨es, -, hcalls, rfl⟩, hcall, ⟨es', hes', hcalls', rfl⟩⟩, hresult⟩ := h
  set start : Site := ⟨s, ofSettings settings registry observers⟩ with hstart
  set u := (start.after es).next (.own (.start token)) with hu
  have hnumbered : Numbered (start.after es).consumer :=
    numbered_after (w := start) (numbered_ofSettings settings registry observers) es
  have hnew : (call, result) ∉ u.consumer.returned := fun hmem =>
    (hnumbered.returned_lt hmem).ne hcall.symm
  obtain ⟨before, l, rest, w', first, rfl, hstep, hreturned, hnot, hin⟩ :=
    exists_return hnew (mem_of_result? hresult)
  have hreach : start.after (es ++ .own (.start token) :: before) = u.after before :=
    List.foldl_append
  have hstops : ∀ e ∈ es ++ .own (.start token) :: before, e.isStop = false := by
    intro e he
    rcases List.mem_append.1 he with he | he
    · exact Event.isStop_of_isCall (hcalls e he)
    · rcases List.mem_cons.1 he with rfl | he
      · rfl
      · exact Event.isStop_of_isCall (hcalls' e (List.mem_append_left _ he))
  obtain ⟨setup, hlast, hleft⟩ :=
    left_of_returned hstops (hreach.symm ▸ hstep) (hreach.symm ▸ hreturned)
  rw [hreach] at hlast hleft
  refine ⟨u.after before, l, w', setup, hstep, ?_, hleft, uncalled_of_append hes' hcalls' hstep⟩
  -- whoever returns then is the start
  rw [hlast, List.mem_append, List.mem_singleton] at hin
  exact (Prod.mk.inj (hin.resolve_left hnot)).2

/-! ## Whose token sends the workers away -/

theorem OnlyStarted.staged
    (h : OnlyStarted token ⟨s, ofSettings settings registry observers⟩ w) :
    Staged w.scene w.consumer := by
  obtain ⟨es, -, -, rfl⟩ := h
  exact staged_after (staged_ofSettings s settings registry observers) es

/-- All workers and watchers are sent away once the one token is cancelled that the starts were
given. -/
theorem OnlyStarted.sentAway
    (h : OnlyStarted token ⟨s, ofSettings settings registry observers⟩ w)
    (hcancelled : w.scene.isCancelled token = true) : SentAway w := by
  obtain ⟨es, hes, hstarts, rfl⟩ := h
  set start : Site := ⟨s, ofSettings settings registry observers⟩ with hstart
  have hgoverned := governed_after (w := start)
    (governed_ofSettings s settings registry observers)
    (staged_ofSettings s settings registry observers)
    (informed_ofSettings s settings registry observers) hes
  have hbalanced : (start.after es).consumer.crew.processor.Balanced := by
    obtain ⟨ms, hms⟩ := exists_processor_moves start es
    rw [hms]
    exact (Processor.balanced_ofSettings settings registry observers).moves ms
  have hbusy : (start.after es).consumer.crew.Busy := by
    refine busy_after (w := start) (fun k n i hphase => ?_) es
    cases hphase
  have hwatched : Watched (start.after es).scene (start.after es).consumer :=
    watched_after (w := start) (watched_ofSettings s settings registry observers) es
  refine hgoverned.sentAway hbusy hbalanced hwatched fun x hx => ?_
  -- the overseer is one of the starts
  rcases started_of_overseer (w := start) (.inr hx) with hnone | hnone | ⟨before, rest, hsplit, -⟩
  · cases hnone
  · cases hnone
  · have hmem : .own (.start x.2) ∈ es := by
      rw [hsplit]
      exact List.mem_append_right _ List.mem_cons_self
    rw [hstarts x.2 hmem]
    exact hcancelled

end Site

/-! ## Consumers that are not called at all -/

/-- Nothing was ever done with a consumer. -/
structure Untouched (c : Consumer) : Prop where
  status : c.status = .idle
  entering : c.entering = []
  waiting : c.waiting = []
  active : c.active = none
  slot : c.slot = none
  channels : c.channels = []
  watchers : c.watchers = []
  pools : c.crew.tokens = []
  returned : c.returned = []

theorem untouched_ofSettings (settings : ConsumerSettings) (registry : Registry)
    (observers : List String) : Untouched (ofSettings settings registry observers) :=
  ⟨rfl, rfl, rfl, rfl, rfl, rfl, rfl, rfl, rfl⟩

theorem Stepped.untouched {s s' : Scene} {c c' : Consumer} {l : Label} (h : Stepped s c l s' c')
    (hl : (Event.own l).isCall = false) (hc : Untouched c) : Untouched c' := by
  -- without calls, a subscription or a watcher, only the crew can do something
  cases h with
  | start | stop => cases hl
  | found hentering | hired hentering =>
    rw [hc.entering] at hentering
    cases hentering
  | declined _ hwaiting | vacant _ hwaiting | cancels _ hwaiting | drains _ hwaiting =>
    rw [hc.waiting] at hwaiting
    cases hwaiting
  | cancelled hactive | closes hactive | spared hactive | closed hactive | unclosed hactive
  | opened hactive | unopened hactive | built hactive | unbuilt hactive | installed hactive
  | retired hactive =>
    rw [hc.active] at hactive
    cases hactive
  | gone hw | rebuilds hw | passes hw =>
    rw [hc.watchers] at hw
    cases hw
  | reconnected => exact { hc with watchers := by simp [hc.watchers] }
  | channelClosed hviews =>
    exact { hc with
      watchers := by simp [hc.watchers]
      pools := (congrArg (List.map PoolView.token) hviews).trans hc.pools }
  | work hwork => exact { hc with pools := hwork.tokens.trans hc.pools }

theorem Site.Uncalled.untouched {w w' : Site} (h : w.Uncalled w') (hw : Untouched w.consumer) :
    Untouched w'.consumer := by
  obtain ⟨es, -, hcalls, rfl⟩ := h
  refine List.foldlRecOn (motive := fun w => Untouched w.consumer) es Site.next hw
    fun w hw e he => ?_
  have hcall := hcalls e he
  have hnext := happened_next w e
  generalize w.next e = w' at hnext
  cases hnext with
  | missed | elsewhere => exact hw
  | took _ hstepped => exact hstepped.untouched hcall hw
  | told => exact { hw with }

end MessageBus.Consumer
