import Mathlib.Tactic.Set
import MessageBus.Proofs.Consumer.Reconnect
import MessageBus.Proofs.Consumer.Setup

/-!
# What a start has done when it returns

A start that is over has subscribed, or returns the error for which it has not; nothing else can
become of it while nobody stops the consumer. A stop that is called after it may send it away with
nothing done, and so may one that was called before it and is not over yet: its end overwrites the
stage of the start (`start_overtaken`). Main statement: `start_law`.
-/

set_option autoImplicit false

namespace MessageBus.Consumer

variable {s s' : Scene} {c c' : Consumer} {call : Call} {phase : CallPhase} {l : Label}
  {w w' : Site} {e : Event}

/-! ## The numbers of the calls -/

/-- The numbers of the calls, wherever they are. -/
def callIds (c : Consumer) : List Nat :=
  c.entering.map Prod.fst ++ (c.inLine.map Call.id ++ c.returned.map Prod.fst)

/-- Each call that was made is in one place: it has not looked for a watcher, it is in line, or it
is over. -/
def Numbered (c : Consumer) : Prop := c.callIds.Perm (List.range c.calls)

theorem numbered_ofSettings (settings : ConsumerSettings) (registry : Registry)
    (observers : List String) : Numbered (ofSettings settings registry observers) := .refl _

theorem Numbered.lt (h : Numbered c) {i : Nat} (hi : i ∈ c.callIds) : i < c.calls :=
  List.mem_range.1 (h.mem_iff.1 hi)

theorem Numbered.id_lt (h : Numbered c) (hcall : call ∈ c.inLine) : call.id < c.calls :=
  h.lt (List.mem_append_right _ (List.mem_append_left _ (List.mem_map_of_mem hcall)))

theorem Numbered.returned_lt (h : Numbered c) {r : Nat × Outcome} (hr : r ∈ c.returned) :
    r.1 < c.calls :=
  h.lt (List.mem_append_right _ (List.mem_append_right _ (List.mem_map_of_mem hr)))

/-- A number that was given is the number of one call. -/
theorem Numbered.count_eq_one (h : Numbered c) {i : Nat} (hi : i < c.calls) :
    c.callIds.count i = 1 := by
  rw [h.count_eq, List.nodup_range.count, if_pos (List.mem_range.2 hi)]

/-- What becomes of the numbers: they stay, or the next one is given to a call. -/
def Renumbered (c c' : Consumer) : Prop :=
  (c'.calls = c.calls ∧ c'.callIds.Perm c.callIds) ∨
    (c'.calls = c.calls + 1 ∧ c'.callIds.Perm (c.callIds ++ [c.calls]))

theorem Numbered.renumbered (h : Numbered c) (hc : Renumbered c c') : Numbered c' := by
  rcases hc with ⟨hcalls, hperm⟩ | ⟨hcalls, hperm⟩
  · rw [Numbered, hcalls]
    exact hperm.trans h
  · rw [Numbered, hcalls, List.range_succ]
    exact hperm.trans (h.append_right _)

theorem renumbered_of_same (hcalls : c'.calls = c.calls) (hentering : c'.entering = c.entering)
    (hline : c'.inLine = c.inLine) (hreturned : c'.returned = c.returned) : Renumbered c c' := by
  refine .inl ⟨hcalls, ?_⟩
  rw [callIds, hentering, hline, hreturned]
  rfl

/-- A call is made. -/
theorem renumbered_of_made {purpose : Purpose} (hcalls : c'.calls = c.calls + 1)
    (hentering : c'.entering = c.entering)
    (hline : c'.inLine = c.inLine ++ [⟨c.calls, purpose⟩]) (hreturned : c'.returned = c.returned) :
    Renumbered c c' := by
  refine .inr ⟨hcalls, List.perm_iff_count.2 fun i => ?_⟩
  simp only [callIds, hentering, hline, hreturned, List.map_append, List.map_cons, List.map_nil,
    List.count_append]
  omega

/-- A start has looked for a watcher. -/
theorem renumbered_of_watch {id : Nat} {parent : Token} {entering : List (Nat × Token)}
    {purpose : Purpose} (hcalls : c'.calls = c.calls) (hwas : c.entering = (id, parent) :: entering)
    (hentering : c'.entering = entering) (hline : c'.inLine = c.inLine ++ [⟨id, purpose⟩])
    (hreturned : c'.returned = c.returned) : Renumbered c c' := by
  refine .inl ⟨hcalls, List.perm_iff_count.2 fun i => ?_⟩
  simp only [callIds, hwas, hentering, hline, hreturned, List.map_append, List.map_cons,
    List.map_nil, List.count_append, List.count_cons, List.count_nil]
  omega

/-- The first call in line is over. -/
theorem renumbered_of_returned {result : Outcome} (hcalls : c'.calls = c.calls)
    (hentering : c'.entering = c.entering) (hline : c.inLine = call :: c'.inLine)
    (hreturned : c'.returned = c.returned ++ [(call.id, result)]) : Renumbered c c' := by
  refine .inl ⟨hcalls, List.perm_iff_count.2 fun i => ?_⟩
  simp only [callIds, hentering, hline, hreturned, List.map_append, List.map_cons, List.map_nil,
    List.count_append, List.count_cons, List.count_nil]
  omega

theorem inLine_append {waiting : List Call} (hactive : c'.active = c.active)
    (hwaiting : c'.waiting = c.waiting ++ waiting) : c'.inLine = c.inLine ++ waiting := by
  rw [inLine, inLine, hactive, hwaiting, List.append_assoc]

theorem Stepped.renumbered (h : Stepped s c l s' c') : Renumbered c c' := by
  cases h with
  | start =>
    refine .inr ⟨rfl, List.perm_iff_count.2 fun i => ?_⟩
    simp only [callIds, inLine, List.map_append, List.map_cons, List.map_nil, List.count_append]
    omega
  | stop | rebuilds => exact renumbered_of_made rfl rfl (inLine_append rfl rfl) rfl
  | found hentering | hired hentering =>
    exact renumbered_of_watch rfl hentering rfl (inLine_append rfl rfl) rfl
  | declined hnone hwaiting =>
    exact renumbered_of_returned rfl rfl ((inLine_of_none hnone).trans hwaiting) rfl
  | vacant hnone hwaiting | cancels hnone hwaiting | drains hnone hwaiting =>
    exact renumbered_of_same rfl rfl
      (by rw [inLine_of_none hnone, inLine_of_active rfl, hwaiting]) rfl
  | cancelled hactive | closes hactive | spared hactive | closed hactive | unclosed hactive
  | opened hactive | built hactive =>
    exact renumbered_of_same rfl rfl (by rw [inLine_of_active hactive, inLine_of_active rfl]) rfl
  | unopened hactive | unbuilt hactive | installed hactive | retired hactive =>
    exact renumbered_of_returned rfl rfl (inLine_of_active hactive) rfl
  | gone | passes | reconnected | channelClosed | work => exact renumbered_of_same rfl rfl rfl rfl

theorem Numbered.happened (h : Numbered w.consumer) (hw : Happened w e w') :
    Numbered w'.consumer := by
  cases hw with
  | missed | elsewhere | told => exact h
  | took _ hstepped => exact h.renumbered hstepped.renumbered

theorem numbered_after (h : Numbered w.consumer) (es : List Event) :
    Numbered (w.after es).consumer :=
  List.foldlRecOn (motive := fun w => Numbered w.consumer) es Site.next h
    fun w hw e _ => hw.happened (happened_next w e)

/-- A call in line was there before, was made now, or is a start that has looked for a watcher. -/
theorem Stepped.of_mem_inLine (h : Stepped s c l s' c') (hcall : call ∈ c'.inLine) :
    call ∈ c.inLine ∨ (call.id = c.calls ∧ call.purpose.want ≠ .start) ∨
      ∃ t, call.purpose = .start t ∧ c'.watchToken = some t := by
  have hold (hline : c'.inLine = c.inLine) : call ∈ c.inLine := hline ▸ hcall
  have hadded {added : Call} (hline : c'.inLine = c.inLine ++ [added]) :
      call ∈ c.inLine ∨ call = added := by
    rwa [hline, List.mem_append, List.mem_singleton] at hcall
  have hover {first : Call} (hline : c.inLine = first :: c'.inLine) : call ∈ c.inLine :=
    hline ▸ List.mem_cons_of_mem _ hcall
  cases h with
  | stop | rebuilds =>
    refine (hadded (inLine_append rfl rfl)).imp_right fun hcall => .inl ?_
    rw [hcall]
    exact ⟨rfl, by simp [Purpose.want]⟩
  | found _ hfound =>
    refine (hadded (inLine_append rfl rfl)).imp_right fun hcall => .inr ?_
    rw [hcall]
    exact ⟨_, rfl, hfound⟩
  | hired =>
    refine (hadded (inLine_append rfl rfl)).imp_right fun hcall => .inr ?_
    rw [hcall]
    exact ⟨_, rfl, rfl⟩
  | declined hnone hwaiting => exact .inl (hover ((inLine_of_none hnone).trans hwaiting))
  | vacant hnone hwaiting | cancels hnone hwaiting | drains hnone hwaiting =>
    exact .inl (hold (by rw [inLine_of_none hnone, inLine_of_active rfl, hwaiting]))
  | cancelled hactive | closes hactive | spared hactive | closed hactive | unclosed hactive
  | opened hactive | built hactive =>
    exact .inl (hold (by rw [inLine_of_active hactive, inLine_of_active rfl]))
  | unopened hactive | unbuilt hactive | installed hactive | retired hactive =>
    exact .inl (hover (inLine_of_active hactive))
  | start | gone | passes | reconnected | channelClosed | work => exact .inl hcall

/-- A number was given to a start. -/
def IsStart (i : Nat) (c : Consumer) : Prop :=
  i < c.calls ∧ ∀ call ∈ c.inLine, call.id = i → call.purpose.want = .start

theorem Renumbered.calls_le (h : Renumbered c c') : c.calls ≤ c'.calls := by
  rcases h with ⟨hcalls, -⟩ | ⟨hcalls, -⟩ <;> omega

theorem IsStart.happened {i : Nat} (h : IsStart i w.consumer) (hw : Happened w e w') :
    IsStart i w'.consumer := by
  cases hw with
  | missed | elsewhere | told => exact h
  | took _ hstepped =>
    refine ⟨Nat.lt_of_lt_of_le h.1 hstepped.renumbered.calls_le, fun call hcall hid => ?_⟩
    rcases hstepped.of_mem_inLine hcall with hcall | ⟨hnew, -⟩ | ⟨token, hstart, -⟩
    · exact h.2 call hcall hid
    · have hlt := h.1
      omega
    · rw [hstart]
      rfl

theorem isStart_after {i : Nat} (h : IsStart i w.consumer) (es : List Event) :
    IsStart i (w.after es).consumer :=
  List.foldlRecOn (motive := fun w => IsStart i w.consumer) es Site.next h
    fun w hw e _ => hw.happened (happened_next w e)

/-! ## How calls return -/

/-- How a call ends: it finds that a stop has begun, or it held the lock. -/
inductive Returned (c : Consumer) (call : Call) : Label → Consumer → Prop where
  | declined {waiting : List Call} {connected : Bool} (hactive : c.active = none)
      (hwaiting : c.waiting = call :: waiting) (hpurpose : call.purpose ≠ .stop)
      (hstopping : c.status.isStopping = true) :
      Returned c call (.enter connected) ({ c with waiting }.concluded call (.ok ()))
  | concluded {phase : CallPhase} {l : Label} {c' : Consumer}
      (hactive : c.active = some (call, phase)) (hend : c'.active = none)
      (hconcluded : Concluded c call phase l c') : Returned c call l c'

theorem Stepped.returned (h : Stepped s c l s' c') :
    c'.returned = c.returned ∨ ∃ call, Returned c call l c' := by
  have hconcluded {call : Call} {phase : CallPhase} (hactive : c.active = some (call, phase))
      (hend : c'.active = none) : ∃ call, Returned c call l c' :=
    ⟨call, .concluded hactive hend (h.concluded hactive hend)⟩
  cases h with
  | declined hnone hwaiting hpurpose hstopping =>
    exact .inr ⟨_, .declined hnone hwaiting hpurpose hstopping⟩
  | unopened hactive | unbuilt hactive | installed hactive | retired hactive =>
    exact .inr (hconcluded hactive rfl)
  | _ => exact .inl rfl

theorem Returned.returned (h : Returned c call l c') :
    ∃ result, c'.returned = c.returned ++ [(call.id, result)] := by
  cases h with
  | declined => exact ⟨_, rfl⟩
  | concluded _ _ hconcluded => cases hconcluded <;> exact ⟨_, rfl⟩

/-- A call that is over by the end of a history has returned at some event of it. -/
theorem exists_return {i : Nat} {result : Outcome} {es : List Event}
    (hnew : (i, result) ∉ w.consumer.returned)
    (hover : (i, result) ∈ (w.after es).consumer.returned) :
    ∃ before l rest w' call, es = before ++ .own l :: rest ∧ (w.after before).step? l = some w' ∧
      Returned (w.after before).consumer call l w'.consumer ∧
      (i, result) ∉ (w.after before).consumer.returned ∧ (i, result) ∈ w'.consumer.returned := by
  induction es generalizing w with
  | nil => exact absurd hover hnew
  | cons e rest ih =>
    by_cases hnext : (i, result) ∈ (w.next e).consumer.returned
    · -- it returns now
      have hw := happened_next w e
      generalize hw' : w.next e = w' at hw hnext
      cases hw with
      | missed | elsewhere | told => exact absurd hnext hnew
      | @took l w' hstep hstepped =>
        rcases hstepped.returned with hsame | ⟨call, hreturned⟩
        · rw [hsame] at hnext
          exact absurd hnext hnew
        · exact ⟨[], l, rest, w', call, rfl, hstep, hreturned, hnew, hnext⟩
    · obtain ⟨before, l, rest', w', call, rfl, h⟩ := ih hnext hover
      exact ⟨e :: before, l, rest', w', call, rfl, h⟩

/-- A call that was to subscribe and held the lock leaves what it returns. -/
theorem Returned.left {a : Account}
    (h : Returned w.consumer call l w'.consumer) (hstep : w.step? l = some w')
    (hstaged : Staged w.scene w.consumer) (hu : Unstopped w.consumer)
    (hinformed : Informed w.consumer.settings w a) :
    ∃ phase setup, w.consumer.active = some (call, phase) ∧
      w'.consumer.returned = w.consumer.returned ++ [(call.id, setup.map fun _ => ())] ∧
      LeftWith w.consumer w'.consumer setup := by
  obtain ⟨s', c'⟩ := w'
  cases h with
  | declined _ _ _ hstopping =>
    rw [hu.status] at hstopping
    cases hstopping
  | @concluded phase _ _ hactive hend _ =>
    have hpurpose : call.purpose ≠ .stop := hu.purpose_ne (by simp [inLine_of_active hactive])
    obtain ⟨-, -, -, setup, -, -, -, hreturned, hleft⟩ :=
      hinformed.ended hstaged.sound hactive hpurpose hstep hend
    exact ⟨phase, setup, hactive, hreturned, hleft⟩

/-- A start that is called is no stop. -/
theorem mem_underWay_of_start {token : Token}
    (h : .stop ∈ (w.next (.own (.start token))).consumer.underWay) :
    .stop ∈ w.consumer.underWay := by
  have hunderWay : (w.next (.own (.start token))).consumer.underWay =
      w.consumer.inLine.map (fun call => call.purpose.want) ++
        List.replicate (w.consumer.entering ++ [(w.consumer.calls, token)]).length .start := rfl
  rw [hunderWay, List.mem_append] at h
  refine List.mem_append_left _ (h.resolve_right fun hmem => ?_)
  cases List.eq_of_mem_replicate hmem

/-! ## The law -/

/-- What a start has done when it returns that is called at a site. -/
structure StartLaw (w : Site) (token : Token) : Prop where
  /-- It returns once at most: it has not looked for a watcher, is in line, or is over. -/
  once : ∀ es, ((w.next (.own (.start token))).after es).consumer.callIds.count
    w.consumer.calls = 1
  /-- When it returns, it held the lock and has left what it returns: a subscription with its
  workers, or an error and no subscription. Otherwise a stop was called since, or was under way. -/
  left : ∀ es result,
    (w.consumer.calls, result) ∈ ((w.next (.own (.start token))).after es).consumer.returned →
    ∃ before l rest w', es = before ++ .own l :: rest ∧
      let now := (w.next (.own (.start token))).after before
      now.step? l = some w' ∧
        w'.consumer.returned = now.consumer.returned ++ [(w.consumer.calls, result)] ∧
        ((∃ call phase setup, now.consumer.active = some (call, phase) ∧
            call.id = w.consumer.calls ∧ call.purpose.want = .start ∧
            result = setup.map (fun _ => ()) ∧ LeftWith now.consumer w'.consumer setup) ∨
          (∃ e ∈ before, e.isStop = true) ∨ .stop ∈ w.consumer.underWay)

/-- A start that returns has subscribed, or has left the error it returns, unless a stop was called
after it or was not over when it was called. -/
theorem start_law (settings : ConsumerSettings) (registry : Registry) (observers : List String)
    (s : Scene) (es : List Event) (token : Token) :
    StartLaw ((⟨s, ofSettings settings registry observers⟩ : Site).after es) token := by
  set start : Site := ⟨s, ofSettings settings registry observers⟩ with hstart
  set w := start.after es with hw
  set u := w.next (.own (.start token)) with hu
  have hnext : Happened w (.own (.start token)) u := happened_next w _
  have hnumbered : Numbered w.consumer :=
    numbered_after (w := start) (numbered_ofSettings settings registry observers) es
  have hisStart : IsStart w.consumer.calls u.consumer :=
    ⟨Nat.lt_succ_self _, fun call hcall hid => absurd hid (hnumbered.id_lt hcall).ne⟩
  constructor
  case once =>
    intro es'
    have hnumbered' := numbered_after (hnumbered.happened hnext) es'
    exact hnumbered'.count_eq_one (isStart_after hisStart es').1
  case left =>
    intro es' result hover
    have hnew : (w.consumer.calls, result) ∉ u.consumer.returned := fun hmem =>
      Nat.lt_irrefl _ (hnumbered.returned_lt hmem)
    obtain ⟨before, l, rest, w', call, hes, hstep, hreturned, hnot, hin⟩ :=
      exists_return hnew hover
    set now := u.after before with hnow
    -- whoever returns now is the start
    obtain ⟨result', hresult'⟩ := hreturned.returned
    obtain ⟨hid, rfl⟩ : w.consumer.calls = call.id ∧ result = result' := by
      rw [hresult', List.mem_append, List.mem_singleton] at hin
      simpa using hin.resolve_left hnot
    rw [← hid] at hresult'
    refine ⟨before, l, rest, w', hes, hstep, hresult', ?_⟩
    by_cases hstop : ∃ e ∈ before, e.isStop = true
    · exact .inr (.inl hstop)
    by_cases hunderWay : .stop ∈ w.consumer.underWay
    · exact .inr (.inr hunderWay)
    have hbefore : ∀ e ∈ before, e.isStop = false := fun e he =>
      Bool.eq_false_iff.2 fun hstops => hstop ⟨e, he, hstops⟩
    have hstaged : Staged u.scene u.consumer := by
      have hbefore := staged_after (w := start) (staged_ofSettings s settings registry observers) es
      exact hbefore.happened hnext
    have hunstopped : Unstopped u.consumer :=
      ⟨rfl, fun hmem => hunderWay (mem_underWay_of_start hmem)⟩
    have hreach : now = start.after (es ++ .own (.start token) :: before) := by
      rw [hnow, hu, hw, eq_comm]
      exact List.foldl_append
    have hinformed : Informed now.consumer.settings now
        (start.account {} (es ++ .own (.start token) :: before)) := by
      rw [hreach, settings_after]
      exact informed_after (informed_ofSettings s settings registry observers) _
    obtain ⟨phase, setup, hactive, hresult, hleft⟩ := hreturned.left hstep
      (staged_after hstaged before) (unstopped_after hstaged hunstopped hbefore) hinformed
    have hpurpose : call.purpose.want = .start :=
      (isStart_after hisStart before).2 call
        (by rw [inLine_of_active hactive]; exact List.mem_cons_self) hid.symm
    refine .inl ⟨call, phase, setup, hactive, hid.symm, hpurpose, ?_, hleft⟩
    rw [hresult'] at hresult
    exact (Prod.mk.inj (List.singleton_inj.1 (List.append_cancel_left hresult))).2

/-- A stop is draining the workers when the consumer is started again. Its end overwrites the stage
of the start, which takes it for a stop that came later: it returns as if it had started, and
nothing is left. -/
theorem start_overtaken :
    let s := ((default : Scene).makeToken none).1
    let start : Site := ⟨s, ofSettings (.ofMessageType "orderCreated") default []⟩
    let w := start.after (([.start 0, .watch, .enter true, .reply (.opened 1), .reply .granted,
      .reply .granted, .reply .granted, .reply .granted, .reply .granted, .stop, .enter true] :
        List Label).map .own)
    let es : List Event := ([.watch, .reply .granted, .work (.leave 0 0), .drained true,
      .reply .granted, .retire, .enter true] : List Label).map .own
    let u := (w.next (.own (.start 0))).after es
    (w.consumer.calls, (.ok () : Outcome)) ∈ u.consumer.returned ∧
      (∀ e ∈ es, e.isStop = false) ∧ u.consumer.slot = none ∧
      u.consumer.crew.pools.length = w.consumer.crew.pools.length ∧
      u.consumer.isQuiet = true ∧ u.consumer.status = .stopped := by
  decide +kernel

end MessageBus.Consumer
