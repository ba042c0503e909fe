import MessageBus.Proofs.Consumer.Progress
import MessageBus.Proofs.Consumer.Starts
import MessageBus.Proofs.Scene.Lineage

/-!
# Whose token sends the workers away

A start joins the watcher that is there, and then the token it was given is forgotten
(`later_token_ignored`). The workers and the watchers of a consumer, also those of later starts and
of rebuilds, stand under the token of one start: the last one that found no watcher to join. It is
the overseer of the consumer until a stop is over. Main statement: `token_law`.
-/

set_option autoImplicit false

namespace MessageBus

/-! ## What is kept of the pools -/

namespace Crew

/-- The tokens of the pools. -/
def tokens (c : Crew) : List Token := c.views.map PoolView.token

variable {s s' : Scene} {c c' : Crew} {l : Label}

theorem tokens_set {k : Nat} {v v' : PoolView} (hv : c.views[k]? = some v)
    (hviews : c'.views = c.views.set k v') (htoken : v'.token = v.token) :
    c'.tokens = c.tokens := by
  unfold tokens
  rw [hviews, List.map_set, htoken]
  refine set_of_getElem? ?_
  rw [List.getElem?_map, hv]
  rfl

theorem tokens_modify {f : PoolView → PoolView} {k : Nat} (hviews : c'.views = c.views.modify k f)
    (htoken : ∀ v, (f v).token = v.token) : c'.tokens = c.tokens := by
  unfold tokens
  rw [hviews]
  apply List.ext_getElem?
  intro i
  simp only [List.getElem?_map, List.getElem?_modify]
  split <;> cases c.views[i]? <;> simp [htoken]

/-- A pool keeps its token. -/
theorem Stepped.tokens (h : Stepped s c l s' c') : c'.tokens = c.tokens := by
  cases h with
  | grant _ hviews | resume _ hviews | news _ _ hviews =>
    exact congrArg (List.map PoolView.token) hviews
  | dismiss => rfl
  | arrive _ hviews => exact tokens_modify hviews fun v => v.push_token _
  | endStream _ hviews => exact tokens_modify hviews fun _ => rfl
  | leave hv _ _ _ hviews | finish hv _ _ _ _ hviews | pullFault hv _ _ _ hviews
  | pull hv _ _ _ hviews | rest hv _ _ _ hviews => exact tokens_set hv hviews rfl

/-- A worker that waits for a job waited for it before, or has just handed it over. -/
theorem Stepped.of_busy (h : Stepped s c l s' c') {k n i : Nat}
    (hbusy : c'.phase? k n = some (.busy i)) :
    c.phase? k n = some (.busy i) ∨ c'.processor.jobs.length = i + 1 := by
  have hsame (hviews : c'.views = c.views) : c.phase? k n = some (.busy i) := by
    unfold phase? at hbusy ⊢
    rwa [hviews] at hbusy
  have hset {k' n' : Nat} {v v' : PoolView} {was phase : WorkerPhase} (hv : c.views[k']? = some v)
      (hwas : v.phases[n']? = some was) (hviews : c'.views = c.views.set k' v')
      (hphases : v'.phases = v.phases.set n' phase) :
      c.phase? k n = some (.busy i) ∨ phase = .busy i := by
    by_cases hself : k' = k ∧ n' = n
    · obtain ⟨rfl, rfl⟩ := hself
      have hphase := phase?_set_self hv hwas hviews hphases
      exact .inr (Option.some.inj (hphase.symm.trans hbusy))
    · rw [phase?_set hv hviews hphases k n hself] at hbusy
      exact .inl hbusy
  cases h with
  | grant _ hviews | resume _ hviews | news _ _ hviews => exact .inl (hsame hviews)
  | dismiss => exact .inl hbusy
  | arrive _ hviews | endStream _ hviews =>
    rw [phase?_modify hviews (by simp [PoolView.endStream])] at hbusy
    exact .inl hbusy
  | leave hv hidle _ _ hviews | finish hv hidle _ _ _ hviews | rest hv hidle _ _ hviews =>
    exact .inl ((hset hv hidle hviews rfl).resolve_right (by simp))
  | pullFault hv hidle _ _ hviews =>
    exact .inl ((hset hv hidle hviews (set_of_getElem? hidle).symm).resolve_right (by simp))
  | pull hv hidle _ hproc hviews =>
    refine (hset hv hidle hviews rfl).imp_right fun hphase => ?_
    rw [hproc, Processor.request_jobs, List.length_append, List.length_singleton,
      WorkerPhase.busy.inj hphase]

theorem Stepped.length_jobs_le (h : Stepped s c l s' c') :
    c.processor.jobs.length ≤ c'.processor.jobs.length := by
  rcases h.jobs with ⟨_, _, _, hran⟩ | ⟨_, _, _, _, _, -, -, hproc⟩ | hproc
  · rw [hran.jobs, List.length_set]
  · rw [hproc, Processor.request_jobs, List.length_append]
    exact Nat.le_add_right _ _
  · rw [hproc]

/-- The jobs for which workers wait are there. -/
def Busy (c : Crew) : Prop :=
  ∀ k n i, c.phase? k n = some (.busy i) → i < c.processor.jobs.length

theorem Stepped.busy (h : Stepped s c l s' c') (hbusy : Busy c) : Busy c' := by
  intro k n i hphase
  rcases h.of_busy hphase with hwas | hnew
  · exact Nat.lt_of_lt_of_le (hbusy k n i hwas) h.length_jobs_le
  · omega

/-- A new pool has no worker that waits for a job. -/
theorem Busy.append {vs : List PoolView} (h : Busy c) (hproc : c'.processor = c.processor)
    (hviews : c'.views = c.views ++ vs) (hidle : ∀ v ∈ vs, ∀ phase ∈ v.phases, phase = .idle) :
    Busy c' := by
  intro k n i hphase
  obtain ⟨v, hv, hn⟩ := phase?_eq_some.1 hphase
  rw [hproc]
  rw [hviews, List.getElem?_append] at hv
  split at hv
  · exact h k n i (phase?_eq_some.2 ⟨v, hv, hn⟩)
  · cases hidle v (List.mem_of_getElem? hv) _ (List.mem_of_getElem? hn)

end Crew

namespace Consumer

/-! ## The overseer -/

/-- Whether there is a watcher to join: one whose token is not cancelled. -/
def isWatched (s : Scene) (c : Consumer) : Bool := c.watchToken.any fun t => !s.isCancelled t

/-- The overseer after a step, by the number of the start and the token it was given: a start that
finds no watcher to join takes over, and once a stop is over there is none. -/
def overseerAfter (s : Scene) (c : Consumer) (overseer : Option (Nat × Token)) :
    Label → Option (Nat × Token)
  | .watch => if c.isWatched s then overseer else c.entering.head?
  | .retire => none
  | _ => overseer

namespace Site

/-- The overseer after an event. A step that cannot be taken changes nothing. -/
def nextOverseer (w : Site) (overseer : Option (Nat × Token)) : Event → Option (Nat × Token)
  | .own l =>
    if (w.step? l).isSome then overseerAfter w.scene w.consumer overseer l else overseer
  | _ => overseer

/-- The overseer after some events. -/
def overseer (w : Site) (was : Option (Nat × Token)) : List Event → Option (Nat × Token)
  | [] => was
  | e :: es => (w.next e).overseer (w.nextOverseer was e) es

/-- Whether an event handles the tokens as such: a start is given one that was made, and nothing
that happens elsewhere moves one from its place. -/
def handlesTokens (w : Site) : Event → Bool
  | .own (.start token) => decide (token < w.scene.tokens.nodes.length)
  | .elsewhere change =>
    w.scene.tokens.parents.isPrefixOf (change.apply w.scene).tokens.parents
  | _ => true

/-- Whether all events of a history do so. -/
def isOrderly (w : Site) : List Event → Bool
  | [] => true
  | e :: es => w.handlesTokens e && (w.next e).isOrderly es

end Site

variable {s s' : Scene} {c c' : Consumer} {call : Call} {l : Label} {w w' : Site} {e : Event}
  {overseer : Option (Nat × Token)}

theorem Stepped.of_mem_entering (h : Stepped s c l s' c') {x : Nat × Token}
    (hx : x ∈ c'.entering) : x ∈ c.entering ∨ (l = .start x.2 ∧ x.1 = c.calls) := by
  cases h with
  | start =>
    rw [List.mem_append, List.mem_singleton] at hx
    refine hx.imp_right fun hx => ?_
    rw [hx]
    exact ⟨rfl, rfl⟩
  | found hentering | hired hentering =>
    rw [hentering]
    exact .inl (List.mem_cons_of_mem _ hx)
  | _ => exact .inl hx

/-- The overseer was there before, or is a start that has looked for a watcher. -/
theorem of_overseerAfter {x : Nat × Token} (h : overseerAfter s c overseer l = some x) :
    overseer = some x ∨ x ∈ c.entering := by
  unfold overseerAfter at h
  split at h
  · split at h
    · exact .inl h
    · exact .inr (List.mem_of_mem_head? h)
  · cases h
  · exact .inl h

/-- The token below which a consumer works is given up only once it is cancelled. -/
theorem Stepped.watchToken (h : Stepped s c l s' c') {t : Token} (ht : c.watchToken = some t)
    (hknown : t < s.tokens.nodes.length) :
    c'.watchToken = some t ∨ s'.isCancelled t = true := by
  have hlater := h.later
  cases h with
  | hired _ hnone => exact .inr (hlater.cancelled t (hnone t ht))
  | retired _ htoken => exact .inr (htoken t ht hknown)
  | _ => exact .inl ht

/-- Only a start that has looked for a watcher brings a new token. -/
theorem Stepped.of_watchToken (h : Stepped s c l s' c') (overseer : Option (Nat × Token))
    {t : Token} (ht : c'.watchToken = some t) :
    (c.watchToken = some t ∧ overseerAfter s c overseer l = overseer) ∨
      ∃ x ∈ c.entering, overseerAfter s c overseer l = some x ∧
        s' = (s.makeToken (some x.2)).1 ∧ t = (s.makeToken (some x.2)).2 := by
  cases h with
  | found hentering hfound hlive =>
    refine .inl ⟨ht, ?_⟩
    rw [overseerAfter, if_pos]
    simp [isWatched, hfound, hlive]
  | @hired id parent entering hentering hnone =>
    refine .inr ⟨(id, parent), by rw [hentering]; exact List.mem_cons_self, ?_, rfl,
      (Option.some.inj ht).symm⟩
    rw [overseerAfter, if_neg, hentering]
    · rfl
    · cases hwatch : c.watchToken with
      | none => simp [isWatched, hwatch]
      | some token => simp [isWatched, hwatch, hnone token hwatch]
  | retired => cases ht
  | _ => exact .inl ⟨ht, rfl⟩

/-! ## What stands under the token of the overseer -/

/-- A token is cancelled, or stands under the one below which the consumer works. -/
def Tied (s : Scene) (c : Consumer) (t : Token) : Prop :=
  s.isCancelled t = true ∨ ∃ u, c.watchToken = some u ∧ s.Under t u

theorem Tied.under {t u : Token} (h : Tied s c t) (hu : s.Under u t) : Tied s c u := by
  rcases h with hcancelled | ⟨v, hv, ht⟩
  · exact .inl (hu.isCancelled hcancelled)
  · exact .inr ⟨v, hv, hu.trans ht⟩

theorem Tied.lt {t : Token} (h : Tied s c t) (hwatched : Watched s c) :
    t < s.tokens.nodes.length := by
  rcases h with hcancelled | ⟨u, hu, ht⟩
  · exact Tokens.lt_of_isCancelled hcancelled
  · exact ht.lt (hwatched.known u hu)

/-- A token stays tied in every step, for what is given up is cancelled. -/
theorem Tied.stepped {t : Token} (h : Tied s c t) (hwatched : Watched s c)
    (hs : Stepped s c l s' c') (hlineage : s.Lineage s') : Tied s' c' t := by
  rcases h with hcancelled | ⟨u, hu, ht⟩
  · exact .inl (hs.later.cancelled t hcancelled)
  · have ht' := ht.lineage hlineage
    rcases hs.watchToken hu (hwatched.known u hu) with hkept | hcancelled
    · exact .inr ⟨u, hkept, ht'⟩
    · exact .inl (ht'.isCancelled hcancelled)

/-- What holds of the tokens of a consumer, and of its overseer. -/
structure Governed (s : Scene) (c : Consumer) (overseer : Option (Nat × Token)) : Prop where
  given : ∀ x ∈ c.entering, x.2 < s.tokens.nodes.length
  known : ∀ x, overseer = some x → x.2 < s.tokens.nodes.length
  watch : ∀ t, c.watchToken = some t → ∃ x, overseer = some x ∧ s.Under t x.2
  starts : ∀ call ∈ c.inLine, ∀ t, call.purpose = .start t → Tied s c t
  pools : ∀ t ∈ c.crew.tokens, Tied s c t

theorem governed_ofSettings (s : Scene) (settings : ConsumerSettings) (registry : Registry)
    (observers : List String) : Governed s (ofSettings settings registry observers) none where
  given _ h := nomatch h
  known _ h := nomatch h
  watch _ h := nomatch h
  starts _ h := nomatch h
  pools _ h := nomatch h

theorem tied_of_watcher (hwatched : Watched s c) {x : Watcher} (hx : x ∈ c.watchers) :
    Tied s c x.token := by
  obtain ⟨i, hi⟩ := List.getElem?_of_mem hx
  rcases hwatched.newest i x.token (getElem?_watchTokens hi) with hcancelled | ⟨hwatch, -⟩
  · exact .inl hcancelled
  · exact .inr ⟨x.token, hwatch, .self _⟩

/-- The workers of a call will stand under a token that is tied. -/
theorem Governed.workToken (h : Governed s c overseer) (hstaged : Staged s c) {phase : CallPhase}
    (hactive : c.active = some (call, phase)) (hpurpose : call.purpose ≠ .stop) :
    Tied s c (c.workToken call) := by
  unfold Consumer.workToken
  cases hcall : call.purpose with
  | start token =>
    exact h.starts call (by rw [inLine_of_active hactive]; exact List.mem_cons_self) token hcall
  | stop => exact absurd hcall hpurpose
  | rebuild i =>
    -- the watcher that began the rebuild is there
    have hcount : c.underWay.count (.rebuild i) ≠ 0 := by
      rw [underWay_of_active hactive, hcall]
      simp [Purpose.want]
    rw [hstaged.rebuilding i] at hcount
    have hrebuilding : c.isRebuilding i = true := by
      by_contra hnot
      exact hcount (if_neg hnot)
    unfold isRebuilding at hrebuilding
    cases hx : c.watchers[i]? with
    | none => simp [hx] at hrebuilding
    | some x =>
      show Tied s c (((c.watchers[i]?).map Watcher.token).getD 0)
      rw [hx]
      exact tied_of_watcher hstaged.watched (List.mem_of_getElem? hx)

theorem tokens_install (s : Scene) (c : Consumer) (call : Call) (channel : Amqp.ChannelId)
    (tag : String) : (c.install s call channel tag).2.crew.tokens =
      c.crew.tokens ++ [(s.makeToken (some (c.workToken call))).2] := by
  simp [install, Crew.tokens, Crew.views, Pool.view_spawn]

/-- A step changes nothing about the tokens of the pools, unless it opens one more, below the token
of the call that holds the lock. -/
theorem tokens_step (h : c.step s l = some (s', c')) :
    c'.crew.tokens = c.crew.tokens ∨ ∃ call channel tag,
      c.active = some (call, .building .consume channel tag) ∧
      c'.crew.tokens = c.crew.tokens ++ [(s.makeToken (some (c.workToken call))).2] ∧
      (s.makeToken (some (c.workToken call))).1.Leads s' := by
  cases stepped_of_step h with
  | work hwork => exact .inl hwork.tokens
  | channelClosed hviews => exact .inl (congrArg (List.map PoolView.token) hviews)
  | @installed call channel tag _ pool hactive =>
    have hinstall : c.install s call channel tag =
        (s', (c.filled pool channel tag).concluded call (.ok ())) := by
      simpa [step, hactive, replied, SetupStep.next?] using h
    have htokens := tokens_install s c call channel tag
    have hleads := leads_install s c call channel tag
    rw [hinstall] at htokens hleads
    exact .inr ⟨call, channel, tag, hactive, htokens, hleads⟩
  | _ => exact .inl rfl

theorem Governed.took {a : Account} (h : Governed s c overseer) (hstaged : Staged s c)
    (hinformed : Informed c.settings ⟨s, c⟩ a)
    (hgiven : ∀ token, l = .start token → token < s.tokens.nodes.length)
    (hstep : c.step s l = some (s', c')) : Governed s' c' (overseerAfter s c overseer l) := by
  have hs := stepped_of_step hstep
  have hlineage := (leads_step hstep).lineage
  have htokens := hs.later.tokens
  have hstays {t : Token} (ht : Tied s c t) : Tied s' c' t :=
    ht.stepped hstaged.watched hs hlineage
  constructor
  case given =>
    intro x hx
    refine Nat.lt_of_lt_of_le ?_ htokens
    rcases hs.of_mem_entering hx with hold | ⟨hstart, -⟩
    · exact h.given x hold
    · exact hgiven x.2 hstart
  case known =>
    intro x hx
    refine Nat.lt_of_lt_of_le ?_ htokens
    rcases of_overseerAfter hx with hold | hnew
    · exact h.known x hold
    · exact h.given x hnew
  case watch =>
    intro t ht
    rcases hs.of_watchToken overseer ht with
      ⟨hsame, hoverseer⟩ | ⟨x, hx, hoverseer, rfl, rfl⟩
    · obtain ⟨x, hx, hunder⟩ := h.watch t hsame
      exact ⟨x, hoverseer.trans hx, hunder.lineage hlineage⟩
    · exact ⟨x, hoverseer, Scene.under_makeToken (h.given x hx)⟩
  case starts =>
    intro call hcall t ht
    rcases hs.of_mem_inLine hcall with hold | ⟨-, hother⟩ | ⟨u, hu, hwatch⟩
    · exact hstays (h.starts call hold t ht)
    · rw [ht] at hother
      exact absurd rfl hother
    · obtain rfl : u = t := Purpose.start.inj (hu.symm.trans ht)
      exact .inr ⟨u, hwatch, .self u⟩
  case pools =>
    intro t ht
    rcases tokens_step hstep with hsame | ⟨call, channel, tag, hactive, hnew, hleads⟩
    · rw [hsame] at ht
      exact hstays (h.pools t ht)
    · rw [hnew, List.mem_append, List.mem_singleton] at ht
      rcases ht with hold | rfl
      · exact hstays (h.pools t hold)
      · -- the new pool stands under the token of the call that has opened it
        have htied := h.workToken hstaged hactive (hinformed call _ hactive).1
        have hunder := Scene.under_makeToken (htied.lt hstaged.watched)
        exact (hstays htied).under (hunder.lineage hleads.lineage)

/-! ## In every history -/

theorem Governed.later {s' : Scene} (h : Governed s c overseer) (hlater : s.Later s')
    (hlineage : s.Lineage s') : Governed s' c overseer := by
  have hstays {t : Token} (ht : Tied s c t) : Tied s' c t :=
    ht.imp (hlater.cancelled t) fun ⟨u, hu, hunder⟩ => ⟨u, hu, hunder.lineage hlineage⟩
  refine ⟨fun x hx => Nat.lt_of_lt_of_le (h.given x hx) hlater.tokens,
    fun x hx => Nat.lt_of_lt_of_le (h.known x hx) hlater.tokens, fun t ht => ?_,
    fun call hcall t ht => hstays (h.starts call hcall t ht), fun t ht => hstays (h.pools t ht)⟩
  obtain ⟨x, hx, hunder⟩ := h.watch t ht
  exact ⟨x, hx, hunder.lineage hlineage⟩

theorem Governed.happened {a : Account} (h : Governed w.scene w.consumer overseer)
    (hstaged : Staged w.scene w.consumer) (hinformed : Informed w.consumer.settings w a)
    (he : w.handlesTokens e = true) :
    Governed (w.next e).scene (w.next e).consumer (w.nextOverseer overseer e) := by
  cases e with
  | own l =>
    show Governed ((w.step? l).getD w).scene ((w.step? l).getD w).consumer
      (if (w.step? l).isSome then overseerAfter w.scene w.consumer overseer l else overseer)
    cases hstep : w.step? l with
    | none => exact h
    | some w' =>
      refine h.took hstaged hinformed ?_ (Site.step?_eq_some.1 hstep)
      rintro token rfl
      exact of_decide_eq_true he
  | elsewhere change => exact h.later (change.later w.scene) (List.isPrefixOf_iff_prefix.1 he)
  | connectHandler | addObserver => exact ⟨h.given, h.known, h.watch, h.starts, h.pools⟩

theorem governed_after {a : Account} {es : List Event}
    (h : Governed w.scene w.consumer overseer) (hstaged : Staged w.scene w.consumer)
    (hinformed : Informed w.consumer.settings w a) (hes : w.isOrderly es = true) :
    Governed (w.after es).scene (w.after es).consumer (w.overseer overseer es) := by
  induction es generalizing w a overseer with
  | nil => exact h
  | cons e rest ih =>
    have hsettings : (w.next e).consumer.settings = w.consumer.settings := settings_after w [e]
    have hinformed' := hinformed.happened (happened_next w e)
    rw [← hsettings] at hinformed'
    obtain ⟨he, hrest⟩ : w.handlesTokens e = true ∧ (w.next e).isOrderly rest = true := by
      simpa [Site.isOrderly] using hes
    exact ih (h.happened hstaged hinformed he) (hstaged.happened (happened_next w e))
      hinformed' hrest

theorem Stepped.busy (hs : Stepped s c l s' c') (h : c.crew.Busy) : c'.crew.Busy := by
  cases hs with
  | work hwork => exact hwork.busy h
  | @channelClosed crew hviews hproc =>
    have hsame : crew.views = c.crew.views ++ [] := by rw [hviews, List.append_nil]
    exact h.append hproc hsame (by simp)
  | @installed call channel tag _ pool _ hview =>
    obtain ⟨token, hview⟩ := hview
    refine h.append rfl (views_filled c pool channel tag) ?_
    simp only [List.mem_singleton, forall_eq]
    rw [hview]
    exact fun phase => List.eq_of_mem_replicate
  | _ => exact h

theorem Happened.busy (hw : Happened w e w') (h : w.consumer.crew.Busy) :
    w'.consumer.crew.Busy := by
  cases hw with
  | missed | elsewhere => exact h
  | told _ hjobs _ => exact fun k n i hphase => by simpa [withProcessor, hjobs] using h k n i hphase
  | took _ hstepped => exact hstepped.busy h

theorem busy_after (h : w.consumer.crew.Busy) (es : List Event) :
    (w.after es).consumer.crew.Busy :=
  List.foldlRecOn (motive := fun w => w.consumer.crew.Busy) es Site.next h
    fun w hw e _ => (happened_next w e).busy hw

/-- Somebody was given a token and started the consumer with it in a history. -/
def Site.Started (w : Site) (es : List Event) (x : Nat × Token) : Prop :=
  ∃ before rest, es = before ++ .own (.start x.2) :: rest ∧ (w.after before).consumer.calls = x.1

theorem of_mem_entering_next {x : Nat × Token} (h : x ∈ (w.next e).consumer.entering) :
    x ∈ w.consumer.entering ∨ (e = .own (.start x.2) ∧ x.1 = w.consumer.calls) := by
  have hw := happened_next w e
  generalize w.next e = w' at h hw
  cases hw with
  | missed | elsewhere | told => exact .inl h
  | took _ hstepped =>
    refine (hstepped.of_mem_entering h).imp_right fun ⟨hl, hx⟩ => ⟨?_, hx⟩
    rw [hl]

theorem of_nextOverseer {x : Nat × Token} (h : w.nextOverseer overseer e = some x) :
    overseer = some x ∨ x ∈ w.consumer.entering := by
  unfold Site.nextOverseer at h
  split at h
  · split at h
    · exact of_overseerAfter h
    · exact .inl h
  · exact .inl h

/-- The overseer is a start, with the token it was given. -/
theorem started_of_overseer {x : Nat × Token} {es : List Event}
    (h : x ∈ (w.after es).consumer.entering ∨ w.overseer overseer es = some x) :
    x ∈ w.consumer.entering ∨ overseer = some x ∨ w.Started es x := by
  induction es generalizing w overseer with
  | nil => exact h.imp_right .inl
  | cons e rest ih =>
    rcases ih h with hentering | hoverseer | ⟨before, rest', rfl, hcalls⟩
    · rcases of_mem_entering_next hentering with hold | ⟨rfl, hcalls⟩
      · exact .inl hold
      · exact .inr (.inr ⟨[], rest, rfl, hcalls.symm⟩)
    · rcases of_nextOverseer hoverseer with hold | hold
      · exact .inr (.inl hold)
      · exact .inl hold
    · exact .inr (.inr ⟨e :: before, rest', rfl, hcalls⟩)

/-! ## The law -/

/-- The workers and the watchers of a consumer are sent away. -/
structure SentAway (w : Site) : Prop where
  pools : ∀ v ∈ w.consumer.crew.views, w.scene.isCancelled v.token = true
  watchers : ∀ x ∈ w.consumer.watchers, w.scene.isCancelled x.token = true
  /-- A worker that is idle can leave, ... -/
  leaves : ∀ k n, w.consumer.crew.phase? k n = some .idle → w.step? (.work (.leave k n)) ≠ none
  /-- ... and by itself the crew takes only so many steps; ... -/
  finite : Acc Crew.Follows w.consumer.crew
  /-- ... when it can take no more, no worker is left, unless a job waits for an answer that never
  comes. -/
  drained : w.consumer.crew.AtRest w.scene →
    (∀ j ∈ w.consumer.crew.processor.jobs, j.isStranded = false) →
    ∀ k, w.consumer.crew.isDrained k = true
  /-- A watcher that listens goes, whatever there is for it to read. -/
  goes : ∀ i x connected, w.consumer.watchers[i]? = some x → x.phase = .listening →
    ∃ s', w.step? (.hear i connected) = some ⟨s', { w.consumer with
      watchers := w.consumer.watchers.set i { x with phase := .gone } }⟩

theorem sentAway_of_cancelled (hbusy : w.consumer.crew.Busy)
    (hbalanced : w.consumer.crew.processor.Balanced)
    (hpools : ∀ t ∈ w.consumer.crew.tokens, w.scene.isCancelled t = true)
    (hwatchers : ∀ x ∈ w.consumer.watchers, w.scene.isCancelled x.token = true) : SentAway w := by
  have hviews : ∀ v ∈ w.consumer.crew.views, w.scene.isCancelled v.token = true :=
    fun v hv => hpools _ (List.mem_map_of_mem hv)
  refine ⟨hviews, hwatchers, ?_, Crew.wellFounded_follows.apply _, ?_, ?_⟩
  · intro k n hidle hnone
    obtain ⟨v, hv, hn⟩ := Crew.phase?_eq_some.1 hidle
    have hleave := Crew.step_leave_ne_none hv hn (hviews v (List.mem_of_getElem? hv))
    simp [Site.step?, step, hleave] at hnone
  · intro hrest hstranded
    have hover := hrest.isOver hbalanced hstranded
    refine Crew.isDrained_of_views fun k v hv => ?_
    refine hrest.isDrained hv (fun n i hn => ?_) (.inr (hviews v (List.mem_of_getElem? hv)))
    have hi := hbusy k n i (Crew.phase?_eq_some.2 ⟨v, hv, hn⟩)
    exact Processor.isOver_iff.2 ⟨_, List.getElem?_eq_getElem hi, hover _ (List.getElem_mem hi)⟩
  · intro i x connected hx hphase
    have hcancelled := hwatchers x (List.mem_of_getElem? hx)
    refine ⟨w.scene.log (w.consumer.report .debug "resubscribe watcher stopped"),
      Site.step?_eq_some.2 ?_⟩
    simp [step, hear, hx, hphase, hcancelled]

/-- Where all that a consumer has is tied, and the token below which it works is cancelled, all is
sent away. -/
theorem Governed.sentAway (h : Governed w.scene w.consumer overseer) (hbusy : w.consumer.crew.Busy)
    (hbalanced : w.consumer.crew.processor.Balanced) (hwatched : Watched w.scene w.consumer)
    (hcancelled : ∀ x, overseer = some x → w.scene.isCancelled x.2 = true) : SentAway w := by
  have htied {t : Token} (ht : Tied w.scene w.consumer t) : w.scene.isCancelled t = true := by
    rcases ht with ht | ⟨u, hu, hunder⟩
    · exact ht
    · obtain ⟨x, hx, hover⟩ := h.watch u hu
      exact (hunder.trans hover).isCancelled (hcancelled x hx)
  exact sentAway_of_cancelled hbusy hbalanced (fun t ht => htied (h.pools t ht))
    fun x hx => htied (tied_of_watcher hwatched hx)

/-- Somebody cancels a token. -/
def cancelling (t : Token) : Change := ⟨fun s => s.cancel t, fun s => Scene.later_cancel s t⟩

/-- What holds at the end of a history of the overseer and of those under its token. -/
structure TokenLaw (start : Site) (es : List Event) (w : Site) (overseer : Option (Nat × Token)) :
    Prop where
  /-- The overseer is one of those who started the consumer, with the token it was given. -/
  started : ∀ x, overseer = some x → start.Started es x
  /-- Cancelling its token sends away all workers and watchers, whichever start they serve, ... -/
  governs : ∀ id token, overseer = some (id, token) →
    SentAway (w.next (.elsewhere (cancelling token)))
  /-- ... and those that come later, as long as it is the overseer. -/
  governed : ∀ id token, overseer = some (id, token) → w.scene.isCancelled token = true → SentAway w
  /-- Where there is no overseer, all are sent away. -/
  vacant : overseer = none → SentAway w

/-- Where tokens are handled as such, the token of the overseer is the one that sends away all
workers and watchers of a consumer. -/
theorem token_law (settings : ConsumerSettings) (registry : Registry) (observers : List String)
    (s : Scene) (es : List Event)
    (hes : (⟨s, ofSettings settings registry observers⟩ : Site).isOrderly es = true) :
    let start : Site := ⟨s, ofSettings settings registry observers⟩
    TokenLaw start es (start.after es) (start.overseer none es) := by
  intro start
  set w := start.after es with hw
  set overseer := start.overseer none es with hoverseer
  have hgoverned : Governed w.scene w.consumer overseer :=
    governed_after (governed_ofSettings s settings registry observers)
      (staged_ofSettings s settings registry observers)
      (informed_ofSettings s settings registry observers) hes
  have hwatched : Watched w.scene w.consumer :=
    watched_after (w := start) (watched_ofSettings s settings registry observers) es
  have hbusy : w.consumer.crew.Busy := by
    refine busy_after (w := start) (fun k n i hphase => ?_) es
    cases hphase
  have hbalanced : w.consumer.crew.processor.Balanced := by
    obtain ⟨ms, hms⟩ := exists_processor_moves start es
    rw [hw, hms]
    exact (Processor.balanced_ofSettings settings registry observers).moves ms
  constructor
  case started =>
    intro x hx
    rcases started_of_overseer (w := start) (.inr hx) with hnone | hnone | hstarted
    · cases hnone
    · cases hnone
    · exact hstarted
  case governs =>
    -- the token governs as before in the scene in which it is cancelled
    intro id token hsome
    have hlater := Scene.later_cancel w.scene token
    have hgoverned' := hgoverned.later hlater (Scene.Leads.cancel w.scene token).lineage
    refine Governed.sentAway (w := w.next (.elsewhere (cancelling token))) hgoverned' hbusy
      hbalanced (hwatched.of_same hlater rfl rfl) fun x hx => ?_
    obtain rfl := Option.some.inj (hx.symm.trans hsome)
    exact Tokens.isCancelled_cancelAt (hgoverned.known _ hsome) w.scene.now
  case governed =>
    intro id token hsome hcancelled
    refine hgoverned.sentAway hbusy hbalanced hwatched fun x hx => ?_
    obtain rfl := Option.some.inj (hx.symm.trans hsome)
    exact hcancelled
  case vacant =>
    intro hnone
    refine hgoverned.sentAway hbusy hbalanced hwatched fun x hx => ?_
    rw [hnone] at hx
    cases hx

/-- Two starts, one after the other and each with a token of its own, and nothing goes wrong. -/
def startedTwice : List Event :=
  ([.start 0, .watch, .enter true, .reply (.opened 1), .reply .granted, .reply .granted,
    .reply .granted, .reply .granted, .reply .granted, .start 1, .watch, .enter true,
    .reply .granted, .work (.leave 0 0), .drained true, .reply .granted, .reply (.opened 2),
    .reply .granted, .reply .granted, .reply .granted, .reply .granted, .reply .granted] :
    List Label).map .own

/-- The scene before them. -/
def withTwoTokens : Scene := (((default : Scene).makeToken none).1.makeToken none).1

/-- The law for two starts, after which the token of the first one is cancelled. -/
theorem token_law_startedTwice :
    let start : Site := ⟨withTwoTokens, ofSettings (.ofMessageType "orderCreated") default []⟩
    let es := startedTwice ++ [.elsewhere (cancelling 0)]
    start.isOrderly es = true ∧ start.overseer none es = some (0, 0) ∧
      SentAway (start.after es) := by
  intro start es
  have hes : start.isOrderly es = true := by decide +kernel
  have hoverseer : start.overseer none es = some (0, 0) := by decide +kernel
  have hlaw : TokenLaw start es (start.after es) (start.overseer none es) :=
    token_law (.ofMessageType "orderCreated") default [] withTwoTokens es hes
  exact ⟨hes, hoverseer, hlaw.governed 0 0 hoverseer (by decide +kernel)⟩

/-- The second start has joined the watcher of the first one, so its token is forgotten: once it is
cancelled the worker of the new subscription cannot leave, and takes what comes next. -/
theorem later_token_ignored :
    let start : Site := ⟨withTwoTokens, ofSettings (.ofMessageType "orderCreated") default []⟩
    let w := start.after startedTwice
    let u := w.next (.elsewhere (cancelling 1))
    w.consumer.returned = [(0, .ok ()), (1, .ok ())] ∧ w.consumer.slot.isSome = true ∧
      w.consumer.isQuiet = true ∧ w.consumer.status = .running ∧ u.scene.isCancelled 1 = true ∧
      u.consumer.crew.phase? 1 0 = some .idle ∧ (u.step? (.work (.leave 1 0))).isNone = true ∧
      ((u.next (.own (.work (.arrive 1 .fault)))).step? (.work (.pull 1 0))).isSome = true ∧
      u.consumer.watchers.map Watcher.phase = [.listening] ∧
      (u.step? (.hear 0 true)).isNone = true := by
  decide +kernel

end Consumer

end MessageBus
