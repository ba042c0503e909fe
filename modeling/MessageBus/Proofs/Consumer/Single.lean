import MessageBus.Proofs.Consumer.Agreement
import MessageBus.Proofs.Consumer.Release
import MessageBus.Proofs.Consumer.StepsLeft
import MessageBus.Proofs.Consumer.Uncalled

/-!
# One call at a time

A consumer on which nothing is under way stays as it is while nobody calls it and no rebuild begins,
and it asks the broker for nothing (`Site.Uncalled.passedOver`). A call that finds it so, and has it
for itself, is under way or has come to its one result (`Site.CalledOnce.course`): a start leaves it
running with a subscription or idle with none (`Site.StartedWith.hasStarted`), a stop leaves it shut
(`Site.CalledWith.hasStopped`).
-/

set_option autoImplicit false

namespace MessageBus

/-- The stage while a call is under way that wants this. -/
def Want.stage : Want → ConsumerStatus
  | .start => .starting
  | .stop => .stopping
  | .rebuild _ => .resubscribing

theorem Purpose.exists_of_want {p : Purpose} (h : p.want = .start) : ∃ token, p = .start token := by
  cases p with
  | start token => exact ⟨token, rfl⟩
  | stop | rebuild => cases h

theorem Purpose.eq_stop_of_want {p : Purpose} (h : p.want = .stop) : p = .stop := by
  cases p with
  | stop => rfl
  | start | rebuild => cases h

namespace Consumer

variable {s s' : Scene} {c c' u : Consumer} {call : Call} {l : Label} {w w' w'' : Site} {e : Event}
  {es : List Event} {want : Want} {token : Token} {result : Outcome} {id : Nat}

/-! ## Consumers that come from their settings -/

/-- A consumer has come to where it is from its settings, whatever has happened. -/
def Site.IsReachable (w : Site) : Prop :=
  ∃ settings registry observers s es,
    (⟨s, ofSettings settings registry observers⟩ : Site).after es = w

namespace Site.IsReachable

theorem after (h : w.IsReachable) (es : List Event) : (w.after es).IsReachable := by
  obtain ⟨settings, registry, observers, s, before, rfl⟩ := h
  exact ⟨settings, registry, observers, s, before ++ es, List.foldl_append⟩

theorem uncalled (h : w.IsReachable) (hw : w.Uncalled w') : w'.IsReachable := by
  obtain ⟨es, -, -, rfl⟩ := hw
  exact h.after es

theorem staged (h : w.IsReachable) : Staged w.scene w.consumer := by
  obtain ⟨settings, registry, observers, s, es, rfl⟩ := h
  exact staged_after (w := ⟨s, _⟩) (staged_ofSettings s settings registry observers) es

theorem numbered (h : w.IsReachable) : Numbered w.consumer := by
  obtain ⟨settings, registry, observers, s, es, rfl⟩ := h
  exact numbered_after (w := ⟨s, _⟩) (numbered_ofSettings settings registry observers) es

theorem informed (h : w.IsReachable) : ∃ a, Informed w.consumer.settings w a := by
  obtain ⟨settings, registry, observers, s, es, rfl⟩ := h
  rw [settings_after]
  exact ⟨_, informed_after (informed_ofSettings s settings registry observers) es⟩

theorem handled (h : w.IsReachable) (htended : w.consumer.tended = []) : Handled w.consumer := by
  obtain ⟨settings, registry, observers, s, es, rfl⟩ := h
  exact handled_after settings registry observers s es htended

end Site.IsReachable

/-! ## Rebuilds only become more -/

theorem Stepped.rebuilds_le (h : Stepped s c l s' c') : c.rebuilds ≤ c'.rebuilds := by
  cases h with
  | rebuilds => exact Nat.le_succ _
  | _ => exact Nat.le_refl _

theorem rebuilds_le_next (w : Site) (e : Event) :
    w.consumer.rebuilds ≤ (w.next e).consumer.rebuilds := by
  have hnext := happened_next w e
  generalize w.next e = w' at hnext
  cases hnext with
  | missed | elsewhere | told => exact Nat.le_refl _
  | took _ hstepped => exact hstepped.rebuilds_le

theorem rebuilds_le_after (w : Site) (es : List Event) :
    w.consumer.rebuilds ≤ (w.after es).consumer.rebuilds :=
  List.foldlRecOn (motive := fun w' => w.consumer.rebuilds ≤ w'.consumer.rebuilds) es Site.next
    (Nat.le_refl _) fun w' h e _ => h.trans (rebuilds_le_next w' e)

theorem Site.Uncalled.rebuilds_le (h : w.Uncalled w') :
    w.consumer.rebuilds ≤ w'.consumer.rebuilds := by
  obtain ⟨es, -, -, rfl⟩ := h
  exact rebuilds_le_after w es

/-- Where no rebuild begins in a history, none begins in the first event or after it. -/
theorem rebuilds_next_eq
    (h : ((w.next e).after es).consumer.rebuilds = w.consumer.rebuilds) :
    (w.next e).consumer.rebuilds = w.consumer.rebuilds ∧
      ((w.next e).after es).consumer.rebuilds = (w.next e).consumer.rebuilds := by
  have hnext := rebuilds_le_next w e
  have hrest := rebuilds_le_after (w.next e) es
  omega

/-! ## Consumers that are left alone -/

/-- What a consumer keeps while nothing is done with it. -/
structure LeftAlone (c c' : Consumer) : Prop where
  status : c'.status = c.status
  rebuilds : c'.rebuilds = c.rebuilds
  slot : c'.slot = c.slot
  channels : c'.channels = c.channels
  entering : c'.entering = c.entering
  waiting : c'.waiting = c.waiting
  active : c'.active = c.active
  watchToken : c'.watchToken = c.watchToken
  calls : c'.calls = c.calls
  returned : c'.returned = c.returned

/-- The crew and the watchers may do something. -/
theorem leftAlone_with (c : Consumer) (crew : Crew) (watchers : List Watcher) :
    LeftAlone c { c with crew, watchers } :=
  ⟨rfl, rfl, rfl, rfl, rfl, rfl, rfl, rfl, rfl, rfl⟩

theorem leftAlone_refl (c : Consumer) : LeftAlone c c := c.leftAlone_with c.crew c.watchers

namespace LeftAlone

theorem trans {c₁ c₂ c₃ : Consumer} (h : LeftAlone c₁ c₂) (h' : LeftAlone c₂ c₃) :
    LeftAlone c₁ c₃ where
  status := h'.status.trans h.status
  rebuilds := h'.rebuilds.trans h.rebuilds
  slot := h'.slot.trans h.slot
  channels := h'.channels.trans h.channels
  entering := h'.entering.trans h.entering
  waiting := h'.waiting.trans h.waiting
  active := h'.active.trans h.active
  watchToken := h'.watchToken.trans h.watchToken
  calls := h'.calls.trans h.calls
  returned := h'.returned.trans h.returned

theorem isQuiet (h : LeftAlone c c') (hquiet : c.isQuiet = true) : c'.isQuiet = true := by
  rw [isQuiet_iff] at hquiet ⊢
  rwa [h.entering, h.waiting, h.active]

end LeftAlone

/-- Without a call or a rebuild, only the crew and the watchers do something. -/
theorem Stepped.leftAlone (h : Stepped s c l s' c') (hquiet : c.isQuiet = true)
    (hl : (Event.own l).isCall = false) (hrebuilds : c'.rebuilds = c.rebuilds) :
    LeftAlone c c' ∧ l.lines c' = [] := by
  obtain ⟨hentering, hwaiting, hactive⟩ := isQuiet_iff.1 hquiet
  cases h with
  | start | stop => cases hl
  | rebuilds => exact absurd hrebuilds (Nat.succ_ne_self _)
  | found h | hired h =>
    rw [hentering] at h
    cases h
  | declined _ h | vacant _ h | cancels _ h | drains _ h =>
    rw [hwaiting] at h
    cases h
  | cancelled h | closes h | spared h | closed h | unclosed h | opened h | unopened h | built h
  | unbuilt h | installed h | retired h =>
    rw [hactive] at h
    cases h
  | gone | passes | reconnected | channelClosed | work => exact ⟨c.leftAlone_with _ _, rfl⟩

theorem leftAlone_next (hquiet : w.consumer.isQuiet = true) (he : e.isCall = false)
    (hrebuilds : (w.next e).consumer.rebuilds = w.consumer.rebuilds) :
    LeftAlone w.consumer (w.next e).consumer ∧ w.lines e = [] := by
  have hnext := happened_next w e
  generalize w.next e = w' at hnext hrebuilds
  cases hnext with
  | missed hnone => exact ⟨leftAlone_refl _, lines_of_missed hnone⟩
  | took hstep hstepped =>
    rw [lines_of_step? hstep]
    exact hstepped.leftAlone hquiet he hrebuilds
  | elsewhere => exact ⟨leftAlone_refl _, rfl⟩
  | told hown => exact ⟨w.consumer.leftAlone_with _ _, lines_of_not_own hown⟩

theorem leftAlone_after (hquiet : w.consumer.isQuiet = true) (hes : ∀ e ∈ es, e.isCall = false)
    (hrebuilds : (w.after es).consumer.rebuilds = w.consumer.rebuilds) :
    LeftAlone w.consumer (w.after es).consumer ∧ w.transcript es = [] := by
  induction es generalizing w with
  | nil => exact ⟨leftAlone_refl _, rfl⟩
  | cons e rest ih =>
    obtain ⟨hfirst, hrest⟩ := rebuilds_next_eq hrebuilds
    obtain ⟨hnext, hlines⟩ := leftAlone_next hquiet (hes e List.mem_cons_self) hfirst
    obtain ⟨hlast, hsilent⟩ :=
      ih (hnext.isQuiet hquiet) (fun e' he' => hes e' (List.mem_cons_of_mem e he')) hrest
    refine ⟨hnext.trans hlast, ?_⟩
    rw [Site.transcript, hlines, hsilent, List.append_nil]

/-- Between two sites a consumer was passed over: it has stayed as it was, and has asked the broker
for nothing. -/
structure Site.PassedOver (w w' : Site) : Prop where
  same : LeftAlone w.consumer w'.consumer
  silent : ∃ es, w.isOrderly es = true ∧ (∀ e ∈ es, e.isCall = false) ∧ w.after es = w' ∧
    w.transcript es = []

theorem Site.Uncalled.passedOver (h : w.Uncalled w') (hquiet : w.consumer.isQuiet = true)
    (hrebuilds : w'.consumer.rebuilds = w.consumer.rebuilds) : w.PassedOver w' := by
  obtain ⟨es, horderly, hcalls, rfl⟩ := h
  obtain ⟨hsame, hsilent⟩ := leftAlone_after hquiet hcalls hrebuilds
  exact ⟨hsame, es, horderly, hcalls, rfl, hsilent⟩

/-! ## The numbers of calls -/

/-- Once nothing is under way, all calls have returned. -/
theorem Numbered.returned_perm (h : Numbered c) (hquiet : c.isQuiet = true) :
    (c.returned.map Prod.fst).Perm (List.range c.calls) := by
  obtain ⟨hentering, hwaiting, hactive⟩ := isQuiet_iff.1 hquiet
  have hperm : c.callIds.Perm (List.range c.calls) := h
  rwa [callIds, inLine_of_none hactive, hentering, hwaiting] at hperm

/-- The last of the numbers, where the others have been given before. -/
theorem eq_of_perm_range {l : List Nat} {i n : Nat} (hl : l.Perm (List.range n))
    (h : (l ++ [i]).Perm (List.range (n + 1))) : i = n := by
  rw [List.range_succ] at h
  have hlast : (l ++ [i]).Perm (l ++ [n]) := h.trans (hl.symm.append_right [n])
  exact List.singleton_perm_singleton.1 ((List.perm_append_left_iff l).1 hlast)

/-! ## The only call -/

/-- Between two sites the consumer was called once, with a start or a stop, and the call had this
number. -/
def Site.CalledOnce (l : Label) (id : Nat) (w w' : Site) : Prop :=
  ∃ u, w.Uncalled u ∧ u.consumer.calls = id ∧ (u.next (.own l)).Uncalled w'

/-- Between two sites the consumer was called once, and the call has returned a result. -/
def Site.CalledWith (l : Label) (result : Outcome) (w w' : Site) : Prop :=
  ∃ id, w.CalledOnce l id w' ∧ w'.consumer.result? id = some result

theorem Site.CalledOnce.trans (h : w.CalledOnce l id w') (h' : w'.Uncalled w'') :
    w.CalledOnce l id w'' := by
  obtain ⟨u, hu, hid, hcalled⟩ := h
  exact ⟨u, hu, hid, hcalled.trans h'⟩

theorem Site.CalledWith.trans (h : w.CalledWith l result w') (h' : w'.Uncalled w'') :
    w.CalledWith l result w'' := by
  obtain ⟨id, hcalled, hresult⟩ := h
  exact ⟨id, hcalled.trans h', h'.result? hresult⟩

/-- What a call begins with that wants this. -/
inductive Begins : Label → Want → Prop where
  | start {token : Token} : Begins (.start token) .start
  | stop : Begins .stop .stop

/-- What is left when a call is over that wanted this and had this result. -/
def Want.Left : Want → Outcome → Consumer → Prop
  | .stop, _, c => c.status = .stopped ∧ c.slot = none ∧ c.watchToken = none
  | _, .ok _, c => c.status = .running ∧ c.slot.isSome = true
  | _, .error _, c => c.status = .idle ∧ c.slot = none

theorem LeftAlone.left (h : LeftAlone c c') (hleft : Want.Left want result c) :
    Want.Left want result c' := by
  cases want with
  | stop =>
    obtain ⟨hstatus, hslot, hwatch⟩ := hleft
    exact ⟨h.status.trans hstatus, h.slot.trans hslot, h.watchToken.trans hwatch⟩
  | start | rebuild =>
    cases result with
    | ok => exact ⟨h.status.trans hleft.1, (congrArg Option.isSome h.slot).trans hleft.2⟩
    | error => exact ⟨h.status.trans hleft.1, h.slot.trans hleft.2⟩

/-- How a call stands that is the only one on a consumer since it was `u`, when nothing was under
way. -/
inductive Course (want : Want) (u c : Consumer) : Prop where
  | underWay (hstatus : c.status = want.stage) (hcalls : c.calls = u.calls + 1)
      (hunderWay : c.underWay = [want]) (hreturned : c.returned = u.returned)
  | returned {result : Outcome} (hquiet : c.isQuiet = true)
      (hreturned : c.returned = u.returned ++ [(u.calls, result)])
      (hleft : Want.Left want result c)

theorem course_begins (hquiet : w.consumer.isQuiet = true) (hl : Begins l want) :
    Course want w.consumer (w.next (.own l)).consumer := by
  obtain ⟨hentering, hwaiting, hactive⟩ := isQuiet_iff.1 hquiet
  cases hl with
  | start =>
    refine .underWay rfl rfl ?_ rfl
    simp [Site.next, Site.step?, Consumer.step, underWay, inLine, hentering, hwaiting, hactive]
  | stop =>
    refine .underWay rfl rfl ?_ rfl
    simp [Site.next, Site.step?, Consumer.step, underWay, inLine, hentering, hwaiting, hactive,
      Purpose.want]

/-- A call is over. -/
theorem Returned.underWay (h : Returned c call l c') :
    c.underWay = call.purpose.want :: c'.underWay := by
  cases h with
  | declined hnone hwaiting =>
    rw [underWay_of_none hnone, underWay_of_none rfl, hwaiting]
    rfl
  | concluded hactive _ hconcluded => cases hconcluded <;> exact underWay_of_active hactive

/-- Without a call or a rebuild, the calls that are under way go on, or the first one returns. -/
theorem Stepped.goesOn (h : Stepped s c l s' c') (hl : (Event.own l).isCall = false)
    (hrebuilds : c'.rebuilds = c.rebuilds) :
    c'.calls = c.calls ∧
      ((c'.status = c.status ∧ c'.underWay = c.underWay ∧ c'.returned = c.returned) ∨
        ∃ call, Returned c call l c') := by
  have hstays {c' : Consumer} (hstatus : c'.status = c.status)
      (hunderWay : c'.underWay = c.underWay) (hreturned : c'.returned = c.returned) :
      (c'.status = c.status ∧ c'.underWay = c.underWay ∧ c'.returned = c.returned) ∨
        ∃ call, Returned c call l c' := .inl ⟨hstatus, hunderWay, hreturned⟩
  cases h with
  | start | stop => cases hl
  | rebuilds => exact absurd hrebuilds (Nat.succ_ne_self _)
  | found hentering | hired hentering =>
    refine ⟨rfl, hstays rfl ?_ rfl⟩
    simp [underWay, inLine, hentering, Purpose.want, List.replicate_succ]
  | declined hnone hwaiting hpurpose hstopping =>
    exact ⟨rfl, .inr ⟨_, .declined hnone hwaiting hpurpose hstopping⟩⟩
  | vacant hnone hwaiting | cancels hnone hwaiting | drains hnone hwaiting =>
    refine ⟨rfl, hstays rfl ?_ rfl⟩
    rw [underWay_of_none hnone, underWay_of_active rfl, hwaiting]
    rfl
  | cancelled hactive | closes hactive | spared hactive | closed hactive | unclosed hactive
  | opened hactive | built hactive =>
    refine ⟨rfl, hstays rfl ?_ rfl⟩
    rw [underWay_of_active hactive, underWay_of_active rfl]
  | unopened hactive => exact ⟨rfl, .inr ⟨_, .concluded hactive rfl .unopened⟩⟩
  | unbuilt hactive => exact ⟨rfl, .inr ⟨_, .concluded hactive rfl .unbuilt⟩⟩
  | installed hactive hview => exact ⟨rfl, .inr ⟨_, .concluded hactive rfl (.installed hview)⟩⟩
  | retired hactive => exact ⟨rfl, .inr ⟨_, .concluded hactive rfl .retired⟩⟩
  | gone | passes | reconnected | channelClosed | work => exact ⟨rfl, hstays rfl rfl rfl⟩

/-- How a start returns that was not called off. -/
theorem Returned.started (h : Returned c call l c') (hstaged : Staged s c)
    (hwant : call.purpose.want = .start) (hstatus : c.status = .starting) :
    ∃ result, c'.returned = c.returned ++ [(call.id, result)] ∧ Want.Left .start result c' := by
  obtain ⟨token, hpurpose⟩ := Purpose.exists_of_want hwant
  have hstage (result : Outcome) : call.purpose.stageAfter result c.status =
      (Purpose.start token).stageAfter result .starting := by rw [hpurpose, hstatus]
  cases h with
  | declined _ _ _ hstopping =>
    rw [hstatus] at hstopping
    cases hstopping
  | concluded hactive _ hconcluded =>
    have hslot : c.slot = none := hstaged.sound.slot (by rw [hactive]; rfl)
    cases hconcluded with
    | unopened => exact ⟨_, rfl, hstage _, hslot⟩
    | unbuilt => exact ⟨_, rfl, hstage _, hslot⟩
    | installed => exact ⟨_, rfl, hstage _, rfl⟩
    | retired =>
      -- only a stop comes to this end
      rw [hstaged.retiring _ _ hactive] at hwant
      cases hwant

/-- How a stop returns. -/
theorem Returned.stopped {a : Account} (h : Returned w.consumer call l w'.consumer)
    (hstep : w.step? l = some w') (hstaged : Staged w.scene w.consumer)
    (hinformed : Informed w.consumer.settings w a) (hwant : call.purpose.want = .stop) :
    ∃ result, w'.consumer.returned = w.consumer.returned ++ [(call.id, result)] ∧
      Want.Left .stop result w'.consumer := by
  have hpurpose : call.purpose = .stop := Purpose.eq_stop_of_want hwant
  generalize hc' : w'.consumer = c' at h
  cases h with
  | declined _ _ hne => exact absurd hpurpose hne
  | concluded hactive hend _ =>
    obtain ⟨result, -, hretired⟩ := hinformed.retires hactive hpurpose hstep (hc' ▸ hend)
    have hslot : w.consumer.slot = none := hstaged.sound.slot (by rw [hactive]; rfl)
    rw [← hc', hretired]
    exact ⟨result, rfl, rfl, hslot, rfl⟩

/-- A step without a call or a rebuild. -/
theorem Course.took (h : Course want u w.consumer) (hl : Begins l want) (hu : Numbered u)
    (hquiet : u.isQuiet = true) (hreach : w.IsReachable) {l' : Label}
    (hstep : w.step? l' = some w') (hcall : (Event.own l').isCall = false)
    (hrebuilds : w'.consumer.rebuilds = w.consumer.rebuilds) : Course want u w'.consumer := by
  have hstepped := Site.stepped_of_step? hstep
  cases h with
  | returned hquiet' hreturned hleft =>
    obtain ⟨hsame, -⟩ := hstepped.leftAlone hquiet' hcall hrebuilds
    exact .returned (hsame.isQuiet hquiet') (hsame.returned.trans hreturned) (hsame.left hleft)
  | underWay hstatus hcalls hunderWay hreturned =>
    obtain ⟨hcalls', ⟨hstatus', hunderWay', hreturned'⟩ | ⟨call, hreturns⟩⟩ :=
      hstepped.goesOn hcall hrebuilds
    · exact .underWay (hstatus'.trans hstatus) (hcalls'.trans hcalls) (hunderWay'.trans hunderWay)
        (hreturned'.trans hreturned)
    · obtain ⟨a, hinformed⟩ := hreach.informed
      obtain ⟨rfl, hnil⟩ : want = call.purpose.want ∧ [] = w'.consumer.underWay :=
        List.cons.inj (hunderWay.symm.trans hreturns.underWay)
      obtain ⟨result, hresult, hleft⟩ : ∃ result, w'.consumer.returned =
          w.consumer.returned ++ [(call.id, result)] ∧
            Want.Left call.purpose.want result w'.consumer := by
        generalize hwant : call.purpose.want = want at hl hstatus ⊢
        cases hl with
        | start => exact hreturns.started hreach.staged hwant hstatus
        | stop => exact hreturns.stopped hstep hreach.staged hinformed hwant
      have hquiet' : w'.consumer.isQuiet = true := underWay_eq_nil.1 hnil.symm
      -- the number is the only one that is left
      have hid : call.id = u.calls := by
        have hreach' : Numbered w'.consumer :=
          hreach.numbered.renumbered hstepped.renumbered
        have hperm := hreach'.returned_perm hquiet'
        rw [hresult, hreturned, hcalls', hcalls, List.map_append] at hperm
        exact eq_of_perm_range (hu.returned_perm hquiet) hperm
      rw [hreturned, hid] at hresult
      exact .returned hquiet' hresult hleft

theorem Course.next (h : Course want u w.consumer) (hl : Begins l want) (hu : Numbered u)
    (hquiet : u.isQuiet = true) (hreach : w.IsReachable) (he : e.isCall = false)
    (hrebuilds : (w.next e).consumer.rebuilds = w.consumer.rebuilds) :
    Course want u (w.next e).consumer := by
  have hnext := happened_next w e
  generalize w.next e = w' at hnext hrebuilds
  cases hnext with
  | missed | elsewhere => exact h
  | took hstep => exact h.took hl hu hquiet hreach hstep he hrebuilds
  | told =>
    cases h with
    | underWay hstatus hcalls hunderWay hreturned =>
      exact .underWay hstatus hcalls hunderWay hreturned
    | returned hquiet' hreturned hleft =>
      exact .returned hquiet' hreturned ((w.consumer.leftAlone_with _ _).left hleft)

theorem Course.after (h : Course want u w.consumer) (hl : Begins l want) (hu : Numbered u)
    (hquiet : u.isQuiet = true) (hreach : w.IsReachable) (hes : ∀ e ∈ es, e.isCall = false)
    (hrebuilds : (w.after es).consumer.rebuilds = w.consumer.rebuilds) :
    Course want u (w.after es).consumer := by
  induction es generalizing w with
  | nil => exact h
  | cons e rest ih =>
    obtain ⟨hfirst, hrest⟩ := rebuilds_next_eq hrebuilds
    exact ih (h.next hl hu hquiet hreach (hes e List.mem_cons_self) hfirst) (hreach.after [e])
      (fun e' he' => hes e' (List.mem_cons_of_mem e he')) hrest

/-- A call that finds nothing under way, and while which nobody else calls and no rebuild begins. -/
theorem Site.CalledOnce.course (h : w.CalledOnce l id w') (hl : Begins l want)
    (hreach : w.IsReachable) (hquiet : w.consumer.isQuiet = true)
    (hrebuilds : w'.consumer.rebuilds = w.consumer.rebuilds) :
    id = w.consumer.calls ∧ w'.IsReachable ∧ Course want w.consumer w'.consumer := by
  obtain ⟨u, hu, rfl, hcalled⟩ := h
  have hbegins : (u.next (.own l)).consumer.rebuilds = u.consumer.rebuilds := by
    cases hl <;> rfl
  -- no rebuild begins before the call or after it
  have hbefore := hu.rebuilds_le
  have hsince := hcalled.rebuilds_le
  have hreach' := hreach.uncalled hu
  obtain ⟨hsame, -⟩ := hu.passedOver hquiet (by omega)
  have hcourse := course_begins (hsame.isQuiet hquiet) hl
  refine ⟨hsame.calls, (hreach'.after [.own l]).uncalled hcalled, ?_⟩
  obtain ⟨es, -, hes, rfl⟩ := hcalled
  have hcourse' := hcourse.after hl hreach'.numbered (hsame.isQuiet hquiet) (hreach'.after [.own l])
    hes (by omega)
  cases hcourse' with
  | underWay hstatus hcalls hunderWay hreturned =>
    exact .underWay hstatus (by rw [hcalls, hsame.calls]) hunderWay
      (hreturned.trans hsame.returned)
  | returned hquiet' hreturned hleft =>
    exact .returned hquiet' (by rw [hreturned, hsame.returned, hsame.calls]) hleft

/-- A call has no result before it returns. -/
theorem Numbered.result?_eq_none (h : Numbered c) : c.result? c.calls = none := by
  by_contra hne
  obtain ⟨result, hresult⟩ := Option.ne_none_iff_exists'.1 hne
  exact Nat.lt_irrefl _ (h.returned_lt (mem_of_result? hresult))

/-- A call that has a result is over. -/
theorem Course.of_result? (h : Course want u c) (hu : Numbered u)
    (hresult : c.result? u.calls = some result) :
    c.isQuiet = true ∧ Want.Left want result c := by
  cases h with
  | underWay _ _ _ hreturned =>
    rw [result?, hreturned, ← result?, hu.result?_eq_none] at hresult
    cases hresult
  | returned hquiet hreturned hleft =>
    have hmem := mem_of_result? hresult
    rw [hreturned, List.mem_append, List.mem_singleton] at hmem
    rcases hmem with hmem | hmem
    · exact absurd (hu.returned_lt hmem) (Nat.lt_irrefl _)
    · obtain rfl := (Prod.mk.inj hmem).2
      exact ⟨hquiet, hleft⟩

/-- A call that is over has a result. -/
theorem Course.exists_result (h : Course want u c) (hu : Numbered u)
    (hover : c.underWay = []) : ∃ result, c.result? u.calls = some result := by
  cases h with
  | underWay _ _ hunderWay =>
    rw [hunderWay] at hover
    cases hover
  | @returned result _ hreturned =>
    refine ⟨result, ?_⟩
    have hnone : u.returned.lookup u.calls = none := hu.result?_eq_none
    rw [result?, hreturned, List.lookup_append, hnone]
    simp

/-! ## What calls leave -/

/-- Between two sites a start was called and has returned a result: the consumer is running with a
subscription, or idle without one. -/
structure Site.HasStarted (token : Token) (result : Outcome) (w w' : Site) : Prop where
  called : w.StartedWith token result w'
  status : w'.consumer.status = if result.isOk then .running else .idle
  slot : w'.consumer.slot.isSome = result.isOk
  bare : result.isOk = false → Bare w'.consumer

theorem Site.StartedWith.hasStarted (h : w.StartedWith token result w') (hreach : w.IsReachable)
    (hquiet : w.consumer.isQuiet = true)
    (hrebuilds : w'.consumer.rebuilds = w.consumer.rebuilds) :
    w.HasStarted token result w' ∧ w'.IsReachable ∧ w'.consumer.isQuiet = true := by
  obtain ⟨id, hcalled, hresult⟩ := id h
  obtain ⟨rfl, hreach', hcourse⟩ := Site.CalledOnce.course hcalled .start hreach hquiet hrebuilds
  obtain ⟨hquiet', hleft⟩ := hcourse.of_result? hreach.numbered hresult
  refine ⟨?_, hreach', hquiet'⟩
  cases result with
  | ok => exact ⟨h, hleft.1, hleft.2, nofun⟩
  | error =>
    exact ⟨h, hleft.1, by rw [hleft.2]; rfl, fun _ => hreach'.staged.sound.bare hquiet' hleft.2⟩

/-- Between two sites a stop was called and has returned a result, and the consumer is shut. -/
structure Site.HasStopped (result : Outcome) (w w' : Site) : Prop where
  called : w.CalledWith .stop result w'
  shut : Shut w'

theorem Site.CalledWith.hasStopped (h : w.CalledWith .stop result w') (hreach : w.IsReachable)
    (hquiet : w.consumer.isQuiet = true)
    (hrebuilds : w'.consumer.rebuilds = w.consumer.rebuilds) :
    w.HasStopped result w' ∧ w'.IsReachable ∧ w'.consumer.isQuiet = true := by
  obtain ⟨id, hcalled, hresult⟩ := id h
  obtain ⟨rfl, hreach', hcourse⟩ := hcalled.course .stop hreach hquiet hrebuilds
  obtain ⟨hquiet', hstatus, hslot, hwatch⟩ := hcourse.of_result? hreach.numbered hresult
  have hactive : w'.consumer.active = none := (isQuiet_iff.1 hquiet').2.2
  refine ⟨⟨h, shut_of_stopped hreach'.staged.watched hstatus hslot hactive hwatch ?_⟩, hreach',
    hquiet'⟩
  exact hreach'.handled (by simp [tended, hslot, hactive])

theorem Shut.retired (h : Shut w) (hreach : w.IsReachable) (hquiet : w.consumer.isQuiet = true) :
    Retired w.consumer :=
  retired_of_none (hreach.staged.stopped h.status) (isQuiet_iff.1 hquiet).2.2

/-- While nobody calls it, a consumer on which a stop is over stays so. -/
theorem Site.Uncalled.retired (h : w.Uncalled w') (hretired : Retired w.consumer) :
    Retired w'.consumer := by
  obtain ⟨es, -, hes, rfl⟩ := h
  exact (hretired.after fun e he => Event.isStart_of_isCall (hes e he)).1

/-- A stop that is called when another one is over has nothing to complain of. -/
theorem Site.CalledWith.eq_ok (h : w.CalledWith .stop result w') (hreach : w.IsReachable)
    (hretired : Retired w.consumer) : result = .ok () := by
  obtain ⟨id, ⟨u, hu, rfl, ⟨es, -, hes, rfl⟩⟩, hresult⟩ := h
  have hstarts : ∀ e ∈ .own .stop :: es, e.isStart = false :=
    List.forall_mem_cons.2 ⟨rfl, fun e he => Event.isStart_of_isCall (hes e he)⟩
  obtain ⟨-, -, rs, hrs, hok⟩ := (hu.retired hretired).after hstarts
  have hmem : _ ∈ (u.after (.own .stop :: es)).consumer.returned := mem_of_result? hresult
  rw [hrs, List.mem_append] at hmem
  rcases hmem with hmem | hmem
  · -- the number was not given before
    exact absurd ((hreach.uncalled hu).numbered.returned_lt hmem) (Nat.lt_irrefl _)
  · exact hok _ hmem

/-! ## How the only call goes on -/

/-- While nobody calls and no rebuild begins, no more is left to the calls than before. -/
theorem stepsLeft_next_le (he : e.isCall = false)
    (hrebuilds : (w.next e).consumer.rebuilds = w.consumer.rebuilds) :
    (w.next e).consumer.stepsLeft ≤ w.consumer.stepsLeft := by
  have hnext := happened_next w e
  generalize w.next e = w' at hnext hrebuilds
  cases hnext with
  | missed | elsewhere | told => exact Nat.le_refl _
  | took _ hstepped =>
    have hle := hstepped.stepsLeft_le
    rw [(hstepped.goesOn he hrebuilds).1] at hle
    omega

theorem stepsLeft_after_le (hes : ∀ e ∈ es, e.isCall = false)
    (hrebuilds : (w.after es).consumer.rebuilds = w.consumer.rebuilds) :
    (w.after es).consumer.stepsLeft ≤ w.consumer.stepsLeft := by
  induction es generalizing w with
  | nil => exact Nat.le_refl _
  | cons e rest ih =>
    obtain ⟨hfirst, hrest⟩ := rebuilds_next_eq hrebuilds
    exact (ih (fun e' he' => hes e' (List.mem_cons_of_mem e he')) hrest).trans
      (stepsLeft_next_le (hes e List.mem_cons_self) hfirst)

theorem Site.Uncalled.stepsLeft_le (h : w.Uncalled w')
    (hrebuilds : w'.consumer.rebuilds = w.consumer.rebuilds) :
    w'.consumer.stepsLeft ≤ w.consumer.stepsLeft := by
  obtain ⟨es, -, hes, rfl⟩ := h
  exact stepsLeft_after_le hes hrebuilds

/-- A call can go on, and less is left then: it looks for a watcher, takes the lock, or is given the
answer that it waits for. The end of the workers comes when they are gone. -/
inductive Site.CallGoesOn (w : Site) (id : Nat) : Prop where
  | watches {token : Token} (hentering : w.consumer.entering = [(id, token)])
      (hstep : ∃ w', w.step? .watch = some w' ∧ w'.consumer.stepsLeft < w.consumer.stepsLeft)
  | enters {call : Call} (hid : call.id = id) (hactive : w.consumer.active = none)
      (hwaiting : w.consumer.waiting = [call])
      (hstep : ∀ connected, ∃ w' phase, w.step? (.enter connected) = some w' ∧
        w'.consumer.active = some (call, phase) ∧ w'.consumer.stepsLeft < w.consumer.stepsLeft)
  | answered {call : Call} {phase : CallPhase} (hid : call.id = id)
      (hactive : w.consumer.active = some (call, phase)) (hwaiting : w.consumer.waiting = [])
      (hstep : ∀ l, phase.awaits l = true →
        (∀ old connected, phase = .draining old connected →
          w.consumer.crew.isDrained old.pool = true) →
        ∃ w', w.step? l = some w' ∧ w'.consumer.stepsLeft < w.consumer.stepsLeft)

theorem Course.callGoesOn (h : Course want u w.consumer) (hl : Begins l want) (hu : Numbered u)
    (hquiet : u.isQuiet = true) (hnumbered : Numbered w.consumer)
    (hopen : w.consumer.underWay ≠ []) : w.CallGoesOn u.calls := by
  cases h with
  | returned hquiet' => exact absurd (underWay_eq_nil.2 hquiet') hopen
  | underWay hstatus hcalls hunderWay hreturned =>
    have hid {i : Nat} (hids : w.consumer.callIds = i :: u.returned.map Prod.fst) :
        i = u.calls := by
      have hperm : w.consumer.callIds.Perm (List.range w.consumer.calls) := hnumbered
      rw [hids, hcalls] at hperm
      exact eq_of_perm_range (hu.returned_perm hquiet)
        ((List.perm_append_singleton _ _).trans hperm)
    have hnearer {l : Label} {w' : Site} (hstep : w.step? l = some w') (hl : l.isTurn = true) :
        w'.consumer.stepsLeft < w.consumer.stepsLeft :=
      (Site.stepped_of_step? hstep).stepsLeft_lt hl
    obtain ⟨hline, hstarts⟩ | ⟨hline, hstarts⟩ := List.append_eq_singleton_iff.1 hunderWay
    · -- the call is a start that has not looked for a watcher
      have hlength : w.consumer.entering.length = 1 := by
        simpa using congrArg List.length hstarts
      obtain ⟨⟨i, token⟩, hentering⟩ := List.length_eq_one_iff.1 hlength
      obtain rfl : i = u.calls :=
        hid (by simp [callIds, hentering, List.map_eq_nil_iff.1 hline, hreturned])
      obtain ⟨w', hstep⟩ : ∃ w', w.step? .watch = some w' := by
        simp [Site.step?, Consumer.step, hentering]
      exact .watches hentering ⟨w', hstep, hnearer hstep rfl⟩
    obtain ⟨call, hcall, hwant⟩ := List.map_eq_singleton_iff.1 hline
    have hentering : w.consumer.entering = [] := by
      simpa using congrArg List.length hstarts
    have hid : call.id = u.calls := hid (by simp [callIds, hentering, hcall, hreturned])
    cases hactive : w.consumer.active with
    | none =>
      have hadmitted : call.purpose ≠ .stop → w.consumer.status.isStopping = false := by
        intro hpurpose
        rw [hstatus]
        cases hl with
        | start => rfl
        | stop => exact absurd (Purpose.eq_stop_of_want hwant) hpurpose
      have hwaiting : w.consumer.waiting = [call] := inLine_of_none hactive ▸ hcall
      refine .enters hid hactive hwaiting fun connected => ?_
      obtain ⟨w', phase, hstep, hactive', -⟩ := exists_step_enter hactive hwaiting hadmitted
      exact ⟨w', phase, hstep, hactive', hnearer hstep rfl⟩
    | some holder =>
      obtain ⟨call', phase⟩ := holder
      obtain ⟨rfl, hwaiting⟩ : call' = call ∧ w.consumer.waiting = [] :=
        List.cons.inj (inLine_of_active hactive ▸ hcall)
      refine .answered hid hactive hwaiting fun l hawaits hdrained => ?_
      obtain ⟨w', hstep, -⟩ := goesOn w call' phase l hactive hawaits hdrained
      exact ⟨w', hstep, hnearer hstep (isTurn_of_awaits hawaits)⟩

end Consumer

end MessageBus
