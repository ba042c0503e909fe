import MessageBus.Proofs.Consumer.Reading
import MessageBus.Proofs.Consumer.StepsLeft

/-!
# Watchers that catch up

A watcher that wakes finds signals that were announced while it was busy. It reads them one after
the other and waits for the end of each rebuild it begins, so while nothing else is announced and
nobody starts or stops the consumer, a history is the tale of these rebuilds (`Tally`). How many
there will be is settled by what there is to read, whatever becomes of them; and there is an end to
it, for every turn leaves less to be done (`Tally.after`). Main statement: `backlog_law`.
-/

set_option autoImplicit false

namespace MessageBus

/-- The stage of a consumer after some rebuilds that had these results. -/
def ConsumerStatus.afterRebuilds (status : ConsumerStatus) (results : List Outcome) :
    ConsumerStatus :=
  match results.getLast? with
  | none => status
  | some (.ok _) => .running
  | some (.error _) => .resubscribing

namespace Consumer

/-- Whether an event is a step in which a watcher reads, or a call goes on. -/
def Event.isTurnOf (i : Nat) : Event → Bool
  | .own (.hear j _) => j == i
  | .own (.enter _) | .own (.reply _) | .own (.drained _) | .own .retire => true
  | _ => false

/-- Whether a reconnect is announced. -/
def Event.isReconnect : Event → Bool
  | .own .reconnected => true
  | _ => false

/-- Whether a closed channel is announced. -/
def Event.isClosure : Event → Bool
  | .own .channelClosed => true
  | _ => false

/-- Whether a signal is announced. -/
def Event.isSignal (e : Event) : Bool := e.isReconnect || e.isClosure

/-- Whether an event is a step that can be taken. -/
def Site.takes (w : Site) : Event → Bool
  | .own l => (w.step? l).isSome
  | _ => false

/-- How often in a history a watcher reads or a call goes on. -/
def Site.turns (w : Site) (i : Nat) : List Event → Nat
  | [] => 0
  | e :: es => (if w.takes e && e.isTurnOf i then 1 else 0) + (w.next e).turns i es

variable {s s' : Scene} {c c' before : Consumer} {call : Call} {l : Label} {w w' : Site} {e : Event}
  {es : List Event} {i : Nat} {x : Watcher} {up : Bool} {results : List Outcome} {total : Nat}

/-- A cancelled token stays cancelled, so a watcher that is there to stay is so all along. -/
theorem Site.live_of_live_after (w : Site) {es : List Event} {t : Token}
    (h : (w.after es).scene.isCancelled t = false) : w.scene.isCancelled t = false := by
  refine Bool.eq_false_iff.2 fun hcancelled => ?_
  rw [(w.later_after es).cancelled t hcancelled] at h
  cases h

/-! ## Signals that wait -/

/-- A watcher has found so many reconnects and closed channels more. -/
def Finds (i : Nat) (x : Watcher) (reconnects closures : Nat) (c : Consumer) : Prop :=
  ∃ x', c.watchers[i]? = some x' ∧ x'.reconnects.unread = x.reconnects.unread + reconnects ∧
    x'.closures.unread = x.closures.unread + closures

theorem Finds.of_eq (hx : c.watchers[i]? = some x) (h : c'.watchers[i]? = c.watchers[i]?) :
    Finds i x 0 0 c' :=
  ⟨x, h.trans hx, rfl, rfl⟩

theorem finds_of_stepped (h : Stepped s c l s' c') (hx : c.watchers[i]? = some x)
    (hl : ∀ connected, l ≠ .hear i connected) :
    Finds i x (if (Event.own l).isReconnect then 1 else 0)
      (if (Event.own l).isClosure then 1 else 0) c' := by
  have hrelease (p : Purpose) (hwatchers : c'.watchers = p.release c.watchers) :
      Finds i x 0 0 c' := by
    cases p with
    | start | stop => exact .of_eq hx (congrArg (·[i]?) hwatchers)
    | rebuild j =>
      refine ⟨if j = i then { x with phase := .listening } else x, ?_, ?_, ?_⟩
      · rw [hwatchers, Purpose.release, List.getElem?_modify, hx]
        rfl
      all_goals split <;> rfl
  have hother {j : Nat} {connected : Bool} (hhear : l = .hear j connected) (y : Watcher)
      (hwatchers : c'.watchers = c.watchers.set j y) : Finds i x 0 0 c' := by
    refine .of_eq hx ?_
    rw [hwatchers, List.getElem?_set_ne fun hj => hl connected (by rw [hhear, hj])]
  cases h with
  | gone | rebuilds | passes => exact hother rfl _ rfl
  | declined | unopened | unbuilt | installed => exact hrelease _ rfl
  | hired =>
    refine .of_eq hx (List.getElem?_append_left ?_)
    exact (List.getElem?_eq_some_iff.1 hx).1
  | reconnected =>
    refine ⟨{ x with reconnects := x.reconnects.push }, ?_, Backlog.unread_push _, rfl⟩
    exact (List.getElem?_map ..).trans (congrArg _ hx)
  | channelClosed =>
    refine ⟨{ x with closures := x.closures.push }, ?_, rfl, Backlog.unread_push _⟩
    exact (List.getElem?_map ..).trans (congrArg _ hx)
  | start | stop | found | vacant | cancels | drains | cancelled | closes | spared | closed
  | unclosed | opened | built | retired | work => exact .of_eq hx rfl

theorem finds_next (hx : w.consumer.watchers[i]? = some x)
    (he : ∀ connected, e ≠ .own (.hear i connected)) :
    Finds i x (if e.isReconnect then 1 else 0) (if e.isClosure then 1 else 0)
      (w.next e).consumer := by
  have hnext := happened_next w e
  generalize w.next e = w' at hnext
  cases hnext with
  | @missed l hnone =>
    -- a signal can always be announced
    cases l with
    | reconnected | channelClosed => cases hnone
    | _ => exact .of_eq hx rfl
  | took _ hstepped =>
    exact finds_of_stepped hstepped hx fun connected hl => he connected (hl ▸ rfl)
  | elsewhere => exact .of_eq hx rfl
  | told hown =>
    cases e with
    | own l => exact absurd rfl (hown l)
    | elsewhere | connectHandler | addObserver => exact .of_eq hx rfl

/-- All signals that are announced while a watcher does not read wait for it. -/
theorem finds_after (hx : w.consumer.watchers[i]? = some x)
    (hes : ∀ connected, .own (.hear i connected) ∉ es) :
    Finds i x (es.countP Event.isReconnect) (es.countP Event.isClosure)
      (w.after es).consumer := by
  induction es generalizing w x with
  | nil => exact .of_eq hx rfl
  | cons e rest ih =>
    obtain ⟨x', hx', hreconnects, hclosures⟩ :=
      finds_next hx fun connected he => hes connected (he ▸ List.mem_cons_self)
    obtain ⟨x'', hx'', hreconnects', hclosures'⟩ :=
      ih hx' fun connected hmem => hes connected (List.mem_cons_of_mem e hmem)
    refine ⟨x'', hx'', ?_, ?_⟩
    · rw [hreconnects', hreconnects, List.countP_cons]
      omega
    · rw [hclosures', hclosures, List.countP_cons]
      omega

/-! ## Calls that go on -/

/-- What a step is to the watchers in which none of them reads, where nobody starts or stops the
consumer and nothing is announced. -/
inductive Unheard (c : Consumer) (l : Label) (c' : Consumer) : Prop where
  | apart (hwatchers : c'.watchers = c.watchers) (hrebuilds : c'.rebuilds = c.rebuilds)
      (hreturned : c'.returned = c.returned) (hstatus : c'.status = c.status)
      (hunderWay : c'.underWay = c.underWay)
      (htoGo : ∀ i, c'.toGo + (if (Event.own l).isTurnOf i then 1 else 0) ≤ c.toGo)
  /-- The call that holds the lock comes to its end. -/
  | ends {call : Call} {result : Outcome}
      (hwatchers : c'.watchers = call.purpose.release c.watchers)
      (hrebuilds : c'.rebuilds = c.rebuilds)
      (hreturned : c'.returned = c.returned ++ [(call.id, result)])
      (hstatus : c'.status = call.purpose.stageAfter result c.status)
      (hunderWay : c.underWay = call.purpose.want :: c'.underWay) (htoGo : c'.toGo < c.toGo)

theorem toGo_heeds_le (c : Consumer) (i : Nat) (rebuilds : Bool) (x : Watcher) :
    (c.heeds i rebuilds x).toGo ≤ c.toGo + 10 := by
  cases rebuilds with
  | false => exact Nat.le_add_right _ _
  | true =>
    show _ + 10 * (c.waiting ++ [_]).length ≤ _
    rw [List.length_append, List.length_singleton]
    exact Nat.le_of_eq (by rw [toGo, Nat.mul_add, Nat.add_assoc]; rfl)

theorem unheard_of_stepped (h : Stepped s c l s' c') (hs : Staged s c) (hu : Unstopped c)
    (hstart : .start ∉ c.underWay) (hl : (Event.own l).isCall = false)
    (hsignal : (Event.own l).isSignal = false) (hhear : ∀ i connected, l ≠ .hear i connected) :
    Unheard c l c' := by
  have hentering : c.entering = [] := by
    by_contra hne
    refine hstart (List.mem_append_right _ ?_)
    rw [List.mem_replicate, Ne, List.length_eq_zero_iff]
    exact ⟨hne, rfl⟩
  -- no start looks for a watcher, so only the line matters
  have htoGo (hentering' : c'.entering = []) (hcalls : c'.calls = c.calls) :
      c'.toGo + (if l.isTurn then 1 else 0) ≤ c.toGo := by
    have hle := h.stepsLeft_le
    rw [stepsLeft, stepsLeft, hentering', hentering, hcalls] at hle
    omega
  have hkept {call : Call} {phase phase' : CallPhase} (hactive : c.active = some (call, phase)) :
      ({ c with active := some (call, phase') } : Consumer).underWay = c.underWay := by
    rw [underWay_of_active hactive, underWay_of_active rfl]
  cases h with
  | start | stop => cases hl
  | reconnected | channelClosed => cases hsignal
  | gone | rebuilds | passes => exact absurd rfl (hhear _ _)
  | found h | hired h =>
    rw [hentering] at h
    cases h
  | declined _ _ _ hstopping =>
    rw [hu.status] at hstopping
    cases hstopping
  | vacant hnone hwaiting | cancels hnone hwaiting | drains hnone hwaiting =>
    refine .apart rfl rfl rfl rfl ?_ fun _ => htoGo hentering rfl
    rw [underWay_of_none hnone, underWay_of_active rfl, hwaiting]
    rfl
  | cancelled hactive | closes hactive | spared hactive | closed hactive | unclosed hactive
  | opened hactive | built hactive =>
    exact .apart rfl rfl rfl rfl (hkept hactive) fun _ => htoGo hentering rfl
  | unopened hactive | unbuilt hactive | installed hactive =>
    exact .ends rfl rfl rfl rfl (underWay_of_active hactive) (htoGo hentering rfl)
  | retired hactive =>
    refine absurd (hs.retiring _ _ hactive) (hu.purpose_ne ?_)
    rw [inLine_of_active hactive]
    exact List.mem_cons_self
  | work => exact .apart rfl rfl rfl rfl rfl fun _ => Nat.le_refl _

/-! ## The tale of the rebuilds -/

/-- What has become of the signals that a watcher found: some rebuilds have come to their results,
one may be under way, and the rest is still to be read. -/
structure Tally (i : Nat) (up : Bool) (total : Nat) (before c : Consumer) (x : Watcher)
    (results : List Outcome) : Prop where
  watcher : c.watchers[i]? = some x
  returned : c.returned.map Prod.snd = before.returned.map Prod.snd ++ results
  rebuilds : c.rebuilds = before.rebuilds + results.length + c.underWay.length
  due : results.length + c.underWay.length + x.due up = total
  stage : (x.phase = .listening ∧ c.underWay = [] ∧
      c.status = before.status.afterRebuilds results) ∨
    (x.phase = .rebuilding ∧ c.underWay = [.rebuild i] ∧ c.status = .resubscribing)

/-- Where a watcher has only closed channels to read of, the connection stays up, or down. -/
def Steady (i : Nat) (up : Bool) (x : Watcher) (es : List Event) : Prop :=
  x.reconnects.isEmpty = true →
    x.closures.isEmpty = true ∨ ∀ connected, .own (.hear i connected) ∈ es → connected = up

theorem Steady.tail (h : Steady i up x (e :: es)) : Steady i up x es := fun hempty =>
  (h hempty).imp_right fun hup connected hmem => hup connected (List.mem_cons_of_mem e hmem)

theorem admitsRebuild_afterRebuilds {status : ConsumerStatus} (h : status.admitsRebuild = true)
    (results : List Outcome) : (status.afterRebuilds results).admitsRebuild = true := by
  unfold ConsumerStatus.afterRebuilds
  split
  · exact h
  · rfl
  · rfl

theorem isStopping_of_admitsRebuild {status : ConsumerStatus} (h : status.admitsRebuild = true) :
    status.isStopping = false := by
  cases status with
  | idle | running | resubscribing => rfl
  | starting | stopping | stopped => cases h

namespace Tally

theorem start_not_mem (h : Tally i up total before c x results) : .start ∉ c.underWay := by
  rcases h.stage with ⟨-, hunderWay, -⟩ | ⟨-, hunderWay, -⟩ <;> simp [hunderWay]

theorem unstopped (h : Tally i up total before c x results)
    (hadmits : before.status.admitsRebuild = true) : Unstopped c := by
  rcases h.stage with ⟨-, hunderWay, hstatus⟩ | ⟨-, hunderWay, hstatus⟩
  · refine ⟨?_, by simp [hunderWay]⟩
    rw [hstatus]
    exact isStopping_of_admitsRebuild (admitsRebuild_afterRebuilds hadmits results)
  · exact ⟨by rw [hstatus]; rfl, by simp [hunderWay]⟩

/-- The tale does not go on where nothing becomes of the watcher and the calls. -/
theorem of_same (h : Tally i up total before c x results) (hwatcher : c'.watchers[i]? = some x)
    (hreturned : c'.returned = c.returned) (hrebuilds : c'.rebuilds = c.rebuilds)
    (hstatus : c'.status = c.status) (hunderWay : c'.underWay = c.underWay) :
    Tally i up total before c' x results where
  watcher := hwatcher
  returned := by rw [hreturned, h.returned]
  rebuilds := by rw [hrebuilds, hunderWay, h.rebuilds]
  due := by rw [hunderWay, h.due]
  stage := by rw [hunderWay, hstatus]; exact h.stage

/-- The watcher begins a rebuild, or passes over what it has read. -/
theorem heeds {x' : Watcher} {rebuilds : Bool} (h : Tally i up total before c x results)
    (hphase : x.phase = .listening) (hphase' : x'.phase = .listening)
    (hdue : x.due up = (if rebuilds then 1 else 0) + x'.due up) :
    ∃ x'', Tally i up total before (c.heeds i rebuilds x') x'' results ∧ x''.token = x'.token ∧
      x''.reconnects = x'.reconnects ∧ x''.closures = x'.closures := by
  have hlt := (List.getElem?_eq_some_iff.1 h.watcher).1
  have hdue' := h.due
  have hrebuilds' := h.rebuilds
  rcases h.stage with ⟨-, hunderWay, hstatus⟩ | ⟨hrebuilding, -, -⟩
  · rw [hunderWay] at hdue' hrebuilds'
    cases rebuilds with
    | true =>
      have hunderWay' : (c.heeds i true x').underWay = [.rebuild i] := by
        obtain ⟨hentering, hwaiting, hactive⟩ := isQuiet_iff.1 (underWay_eq_nil.1 hunderWay)
        simp [Consumer.heeds, underWay, inLine, hentering, hwaiting, hactive, Purpose.want]
      refine ⟨{ x' with phase := .rebuilding }, ⟨?_, h.returned, ?_, ?_, ?_⟩, rfl, rfl, rfl⟩
      · exact List.getElem?_set_self hlt
      · rw [hunderWay']
        show c.rebuilds + 1 = _
        rw [hrebuilds']
        rfl
      · rw [hunderWay']
        show results.length + 1 + x'.due up = total
        simp only [if_true, List.length_nil] at hdue hdue'
        omega
      · exact .inr ⟨rfl, hunderWay', rfl⟩
    | false =>
      refine ⟨x', ⟨?_, h.returned, ?_, ?_, ?_⟩, rfl, rfl, rfl⟩
      · exact List.getElem?_set_self hlt
      · exact h.rebuilds
      · show results.length + c.underWay.length + x'.due up = total
        rw [hunderWay]
        simp only [Bool.false_eq_true, if_false, Nat.zero_add] at hdue
        rw [← hdue]
        exact hdue'
      · exact .inl ⟨hphase', hunderWay, hstatus⟩
  · rw [hphase] at hrebuilding
    cases hrebuilding

/-- The rebuild comes to its end. -/
theorem ends {result : Outcome} (h : Tally i up total before c x results)
    (hwatchers : c'.watchers = call.purpose.release c.watchers)
    (hrebuilds : c'.rebuilds = c.rebuilds)
    (hreturned : c'.returned = c.returned ++ [(call.id, result)])
    (hstatus : c'.status = call.purpose.stageAfter result c.status)
    (hunderWay : c.underWay = call.purpose.want :: c'.underWay) :
    Tally i up total before c' { x with phase := .listening } (results ++ [result]) := by
  rcases h.stage with ⟨-, hnone, -⟩ | ⟨-, hone, hstage⟩
  · rw [hunderWay] at hnone
    cases hnone
  · obtain ⟨hwant, hnone⟩ := List.cons.inj (hunderWay.symm.trans hone)
    have hpurpose := Purpose.eq_rebuild_of_want hwant
    have hdue := h.due
    have hbegun := h.rebuilds
    rw [hone] at hdue hbegun
    simp only [List.length_singleton] at hdue hbegun
    constructor
    case watcher =>
      rw [hwatchers, hpurpose, Purpose.release, List.getElem?_modify_eq, h.watcher]
      rfl
    case returned => rw [hreturned, List.map_append, h.returned, List.append_assoc]; rfl
    case rebuilds =>
      rw [hrebuilds, hnone, hbegun, List.length_append]
      rfl
    case due =>
      rw [hnone, List.length_append]
      exact hdue
    case stage =>
      refine .inl ⟨rfl, hnone, ?_⟩
      rw [hstatus, hpurpose, hstage, ConsumerStatus.afterRebuilds, List.getLast?_concat]
      cases result <;> rfl

/-- How much is left to be done, in turns: eleven for each thing that is to be read. -/
def work (x : Watcher) (c : Consumer) : Nat := 11 * x.left + c.toGo

/-- The tale goes on with an event: at a turn less is left to be done, and never more. -/
def Continues (i : Nat) (up : Bool) (total : Nat) (before : Consumer) (x : Watcher) (c : Consumer)
    (turn : Bool) (es : List Event) (c' : Consumer) : Prop :=
  ∃ x' results', Tally i up total before c' x' results' ∧ x'.token = x.token ∧
    Steady i up x' es ∧ work x' c' + (if turn then 1 else 0) ≤ work x c

/-- A watcher hears something. -/
theorem heard {j : Nat} {connected : Bool} (h : Tally i up total before c x results)
    (hs : Staged s c) (hadmits : before.status.admitsRebuild = true)
    (hlive : s.isCancelled x.token = false)
    (hsteady : Steady i up x (.own (.hear j connected) :: es))
    (hstep : c.step s (.hear j connected) = some (s', c')) :
    Continues i up total before x c (j == i) es c' := by
  have hstep : c.hear s j connected = some (s', c') := hstep
  by_cases hj : j = i
  · subst hj
    -- it listens, so rebuilds are admitted
    have hphase : x.phase = .listening := by
      by_contra hnot
      unfold hear at hstep
      simp [h.watcher, hnot] at hstep
    have hadmitted : c.status.admitsRebuild = true := by
      rcases h.stage with ⟨-, -, hstatus⟩ | ⟨-, -, hstatus⟩
      · rw [hstatus]
        exact admitsRebuild_afterRebuilds hadmits results
      · rw [hstatus]
        rfl
    have hheard := map_hear h.watcher hphase hlive hadmitted connected
    rw [hstep, Option.map_some] at hheard
    obtain ⟨⟨rebuilds, x'⟩, hnext, hc'⟩ := Option.map_eq_some_iff.1 hheard.symm
    obtain rfl : _ = c' := hc'
    -- where no reconnect is left there is a closed channel to read of, so the connection is steady
    have hup (hempty : x.reconnects.isEmpty = true) : connected = up := by
      rcases hsteady hempty with hread | hup
      · have hnone : x.next? connected = none :=
          Watcher.next?_eq_none (by rw [Watcher.hasRead, hempty, hread]; rfl)
        rw [hnone] at hnext
        cases hnext
      · exact hup connected List.mem_cons_self
    have hsame := Watcher.same_next? hnext
    obtain ⟨x'', htally, htoken, hreconnects, hclosures⟩ :=
      h.heeds hphase (hsame.1.trans hphase) (Watcher.due_next? hnext hup)
    refine ⟨x'', results, htally, htoken.trans hsame.2, ?_, ?_⟩
    · intro _
      rw [hclosures]
      refine (Watcher.closures_next? hnext).imp_right fun hread => ?_
      have hsteady' := (hsteady hread.1).resolve_left (by rw [hread.2]; exact Bool.false_ne_true)
      exact fun connected' hmem => hsteady' connected' (List.mem_cons_of_mem _ hmem)
    · have hleft := Watcher.left_next? hnext
      have hleft' : x''.left = x'.left := by rw [Watcher.left, hreconnects, hclosures]; rfl
      have htoGo := toGo_heeds_le c j rebuilds x'
      unfold work
      simp only [beq_self_eq_true, if_true]
      omega
  · -- another watcher is there to go
    obtain ⟨y, hy⟩ : ∃ y, c.watchers[j]? = some y := by
      obtain ⟨y, hy, -⟩ := Option.bind_eq_some_iff.1 hstep
      exact ⟨y, hy⟩
    have hcancelled : s.isCancelled y.token = true := by
      by_contra hnot
      have hnewest := hs.watched.succ_eq_length hy (Bool.eq_false_iff.2 hnot)
      have hnewest' := hs.watched.succ_eq_length h.watcher hlive
      omega
    rw [hear_of_cancelled hy hcancelled hstep, beq_eq_false_iff_ne.2 hj]
    refine ⟨x, results, h.of_same ?_ rfl rfl rfl rfl, rfl, hsteady.tail, Nat.le_refl _⟩
    rw [List.getElem?_set_ne hj]
    exact h.watcher

/-- The tale goes on with every event, while nothing else is announced and nobody starts or stops
the consumer. -/
theorem next (h : Tally i up total before w.consumer x results) (hs : Staged w.scene w.consumer)
    (hadmits : before.status.admitsRebuild = true) (hlive : w.scene.isCancelled x.token = false)
    (hcall : e.isCall = false) (hsignal : e.isSignal = false) (hsteady : Steady i up x (e :: es)) :
    Continues i up total before x w.consumer (w.takes e && e.isTurnOf i) es
      (w.next e).consumer := by
  have hnext := happened_next w e
  generalize hw' : w.next e = w' at hnext
  cases hnext with
  | missed hnone =>
    refine ⟨x, results, h, rfl, hsteady.tail, ?_⟩
    simp [Site.takes, hnone]
  | elsewhere => exact ⟨x, results, h, rfl, hsteady.tail, Nat.le_refl _⟩
  | told hown =>
    refine ⟨x, results, h.of_same h.watcher rfl rfl rfl rfl, rfl, hsteady.tail, ?_⟩
    have hnot : w.takes e = false := by
      cases e with
      | own l => exact absurd rfl (hown l)
      | elsewhere | connectHandler | addObserver => rfl
    rw [hnot]
    exact Nat.le_refl _
  | @took l w' hstep hstepped =>
    have htakes : w.takes (.own l) = true := by simp [Site.takes, hstep]
    rw [htakes, Bool.true_and]
    by_cases hhear : ∃ j connected, l = .hear j connected
    · obtain ⟨j, connected, rfl⟩ := hhear
      exact h.heard hs hadmits hlive hsteady (Site.step?_eq_some.1 hstep)
    have hhear : ∀ j connected, l ≠ .hear j connected := fun j connected heq =>
      hhear ⟨j, connected, heq⟩
    cases unheard_of_stepped hstepped hs (h.unstopped hadmits) h.start_not_mem hcall hsignal
      hhear with
    | apart hwatchers hrebuilds hreturned hstatus hunderWay htoGo =>
      refine ⟨x, results, ?_, rfl, hsteady.tail, ?_⟩
      · exact h.of_same (hwatchers ▸ h.watcher) hreturned hrebuilds hstatus hunderWay
      · have hle := htoGo i
        unfold work
        omega
    | ends hwatchers hrebuilds hreturned hstatus hunderWay htoGo =>
      refine ⟨_, _, h.ends hwatchers hrebuilds hreturned hstatus hunderWay, rfl,
        hsteady.tail, ?_⟩
      unfold work
      show 11 * x.left + _ + _ ≤ _
      split <;> omega

/-- So it goes on in a history, and there are at most as many turns as is left to be done. -/
theorem after (h : Tally i up total before w.consumer x results) (hs : Staged w.scene w.consumer)
    (hadmits : before.status.admitsRebuild = true)
    (hlive : (w.after es).scene.isCancelled x.token = false)
    (hcalls : ∀ e ∈ es, e.isCall = false) (hsignals : ∀ e ∈ es, e.isSignal = false)
    (hsteady : Steady i up x es) :
    ∃ x' results', Tally i up total before (w.after es).consumer x' results' ∧
      x'.token = x.token ∧ work x' (w.after es).consumer + w.turns i es ≤ work x w.consumer := by
  induction es generalizing w x results with
  | nil => exact ⟨x, results, h, rfl, Nat.le_refl _⟩
  | cons e rest ih =>
    have hlive₀ := w.live_of_live_after hlive
    obtain ⟨x', results', htally, htoken, hsteady', hwork⟩ :=
      h.next hs hadmits hlive₀ (hcalls e List.mem_cons_self) (hsignals e List.mem_cons_self) hsteady
    obtain ⟨x'', results'', htally', htoken', hwork'⟩ :=
      ih htally (hs.happened (happened_next w e)) (by rw [htoken]; exact hlive)
        (fun e' he' => hcalls e' (List.mem_cons_of_mem e he'))
        (fun e' he' => hsignals e' (List.mem_cons_of_mem e he')) hsteady'
    refine ⟨x'', results'', htally', htoken'.trans htoken, ?_⟩
    calc work x'' ((w.next e).after rest).consumer + w.turns i (e :: rest) ≤ work x w.consumer := by
          rw [Site.turns]
          omega

end Tally

/-! ## The law -/

/-- How many rebuilds so many reconnects and closed channels call for. -/
def rebuildsFor (reconnects closures : Nat) (connected : Bool) : Nat :=
  if reconnects = 0 then if connected then Backlog.readsOf closures else 0
  else Backlog.readsOf reconnects

/-- A watcher listens, of a consumer that is idle, running or resubscribing and that nobody is about
to start or to stop. -/
structure Wakes (i : Nat) (x : Watcher) (c : Consumer) : Prop where
  watcher : c.watchers[i]? = some x
  listens : x.phase = .listening
  status : c.status = .idle ∨ c.status = .running ∨ c.status = .resubscribing
  start : .start ∉ c.underWay
  stop : .stop ∉ c.underWay

/-- Nobody starts or stops the consumer in a history, nothing more is announced, and the watcher is
there to stay. If it has only closed channels to read of, the connection stays as it is. -/
structure Undisturbed (i : Nat) (x : Watcher) (connected : Bool) (w : Site) (es : List Event) :
    Prop where
  calls : ∀ e ∈ es, e.isCall = false
  signals : ∀ e ∈ es, e.isSignal = false
  live : (w.after es).scene.isCancelled x.token = false
  steady : x.reconnects.unread = 0 →
    ∀ connected', .own (.hear i connected') ∈ es → connected' = connected

/-- A watcher listens, and has read everything. -/
structure HasCaughtUp (i : Nat) (c : Consumer) : Prop where
  listens : ∃ x, c.watchers[i]? = some x ∧ x.phase = .listening ∧ x.hasRead = true

/-- What becomes of the signals that a watcher finds, in the histories that begin at a site. -/
structure BacklogLaw (start : Site) : Prop where
  /-- All signals that are announced while it does not read wait for it, whatever their order. -/
  waits : ∀ past es i x, (start.after past).consumer.watchers[i]? = some x →
    (∀ connected, .own (.hear i connected) ∉ es) →
    Finds i x (es.countP Event.isReconnect) (es.countP Event.isClosure)
      ((start.after past).after es).consumer
  /-- To pass over signals comes to an end, when there is none left. -/
  discards : ∀ b : Backlog, b.discard = (b.reads, {})
  /-- A watcher reads reconnects first, and passes over all closed channels then. -/
  hears : ∀ es i x connected, Wakes i x (start.after es).consumer →
    (start.after es).scene.isCancelled x.token = false →
      ((start.after es).step? (.hear i connected)).map Site.consumer =
        (x.next? connected).map fun r => (start.after es).consumer.heeds i r.1 r.2
  /-- Once it has read everything, as many rebuilds have begun as the signals called for, all have
  come to a result, and the last of them settles the stage. -/
  rebuilt : ∀ past es i x connected,
    let w := start.after past
    let w' := w.after es
    Wakes i x w.consumer → Undisturbed i x connected w es → HasCaughtUp i w'.consumer →
      ∃ results : List Outcome,
        results.length = rebuildsFor x.reconnects.unread x.closures.unread connected ∧
        w'.consumer.rebuilds = w.consumer.rebuilds + results.length ∧
        w'.consumer.returned.map Prod.snd = w.consumer.returned.map Prod.snd ++ results ∧
        w'.consumer.status = w.consumer.status.afterRebuilds results ∧
        w'.consumer.isQuiet = true
  /-- Until then the watcher can read on, or its rebuild goes on, ... -/
  goesOn : ∀ past es i x connected,
    let w := start.after past
    let w' := w.after es
    Wakes i x w.consumer → Undisturbed i x connected w es → HasCaughtUp i w'.consumer ∨
      (∀ connected', ∃ w'', w'.step? (.hear i connected') = some w'') ∨
      (∃ call, w'.consumer.inLine = [call] ∧ call.purpose = .rebuild i ∧ GoesOn w' ∧
        (w'.consumer.active = none → ∀ connected', ∃ w'' phase,
          w'.step? (.enter connected') = some w'' ∧ w''.consumer.active = some (call, phase)))
  /-- ... and it takes no more than so many turns. -/
  ends : ∀ past es i x connected,
    let w := start.after past
    Wakes i x w.consumer → Undisturbed i x connected w es →
      w.turns i es ≤
        11 * (Backlog.readsOf x.reconnects.unread + Backlog.readsOf x.closures.unread)

namespace Wakes

theorem admits (h : Wakes i x c) : c.status.admitsRebuild = true := by
  rcases h.status with hstatus | hstatus | hstatus <;> rw [hstatus] <;> rfl

theorem due_eq (h : Wakes i x c) (hfitting : Fitting c) (up : Bool) :
    x.due up = rebuildsFor x.reconnects.unread x.closures.unread up := by
  obtain ⟨hreconnects, hclosures⟩ := hfitting x (List.mem_of_getElem? h.watcher)
  unfold Watcher.due rebuildsFor
  simp only [Backlog.unread_eq_zero, hreconnects.reads, hclosures.reads]

theorem left_eq (h : Wakes i x c) (hfitting : Fitting c) :
    x.left = Backlog.readsOf x.reconnects.unread + Backlog.readsOf x.closures.unread := by
  obtain ⟨hreconnects, hclosures⟩ := hfitting x (List.mem_of_getElem? h.watcher)
  rw [Watcher.left, hreconnects.reads, hclosures.reads]

theorem underWay (h : Wakes i x c) (hlined : LinedUp c) (hs : Staged s c)
    (hlive : s.isCancelled x.token = false) : c.underWay = [] :=
  hlined.underWay_eq_nil hs h.watcher h.listens hlive h.start h.stop

/-- When a watcher wakes, all is still to come. -/
theorem tally (h : Wakes i x c) (hquiet : c.underWay = []) (up : Bool) :
    Tally i up (x.due up) c c x [] where
  watcher := h.watcher
  returned := (List.append_nil _).symm
  rebuilds := by rw [hquiet]; rfl
  due := by rw [hquiet]; exact Nat.zero_add _
  stage := .inl ⟨h.listens, hquiet, rfl⟩

end Wakes

theorem Undisturbed.steady' (h : Undisturbed i x up w es) : Steady i up x es := fun hempty =>
  .inr (h.steady (Backlog.unread_eq_zero.2 hempty))

/-- A watcher that has caught up leaves a tale that is complete. -/
theorem Tally.complete (h : Tally i up total before c x results) (hcaughtUp : HasCaughtUp i c) :
    c.underWay = [] ∧ results.length = total ∧
      c.status = before.status.afterRebuilds results := by
  obtain ⟨x', hx', hphase, hread⟩ := hcaughtUp.listens
  obtain rfl := Option.some.inj (h.watcher.symm.trans hx')
  rcases h.stage with ⟨-, hunderWay, hstatus⟩ | ⟨hrebuilding, -, -⟩
  · refine ⟨hunderWay, ?_, hstatus⟩
    have hdue := h.due
    rw [hunderWay, Watcher.due_of_hasRead hread] at hdue
    exact hdue
  · rw [hphase] at hrebuilding
    cases hrebuilding

/-- While the tale is not complete, the watcher can read on, or its rebuild goes on. -/
theorem Tally.goesOn (h : Tally i up total before w.consumer x results)
    (hadmits : before.status.admitsRebuild = true) (hlive : w.scene.isCancelled x.token = false) :
    HasCaughtUp i w.consumer ∨ (∀ connected, ∃ w', w.step? (.hear i connected) = some w') ∨
      ∃ call, w.consumer.inLine = [call] ∧ call.purpose = .rebuild i ∧ GoesOn w ∧
        (w.consumer.active = none → ∀ connected, ∃ w' phase,
          w.step? (.enter connected) = some w' ∧ w'.consumer.active = some (call, phase)) := by
  rcases h.stage with ⟨hphase, -, hstatus⟩ | ⟨-, hunderWay, hstatus⟩
  · cases hread : x.hasRead with
    | true => exact .inl ⟨x, h.watcher, hphase, hread⟩
    | false =>
      refine .inr (.inl fun connected => ?_)
      have hadmitted : w.consumer.status.admitsRebuild = true := by
        rw [hstatus]
        exact admitsRebuild_afterRebuilds hadmits results
      obtain ⟨rebuilds, x', hnext⟩ := Watcher.exists_next? hread connected
      have hheard := map_hear h.watcher hphase hlive hadmitted connected
      rw [hnext, Option.map_some] at hheard
      obtain ⟨⟨s', c'⟩, hstep, -⟩ := Option.map_eq_some_iff.1 hheard
      exact ⟨⟨s', c'⟩, Site.step?_eq_some.2 hstep⟩
  · obtain ⟨hline, hnone⟩ | ⟨hline, hstarts⟩ := List.append_eq_singleton_iff.1 hunderWay
    · -- what is in line would be a start
      cases List.eq_of_mem_replicate (hnone ▸ List.mem_singleton_self (Want.rebuild i))
    obtain ⟨call, hcall, hwant⟩ := List.map_eq_singleton_iff.1 hline
    have hpurpose := Purpose.eq_rebuild_of_want hwant
    refine .inr (.inr ⟨call, hcall, hpurpose, Consumer.goesOn w, fun hactive connected => ?_⟩)
    have hwaiting : w.consumer.waiting = [call] := inLine_of_none hactive ▸ hcall
    obtain ⟨w', phase, hstep, hactive', -⟩ :=
      exists_step_enter hactive hwaiting fun _ => by rw [hstatus]; rfl
    exact ⟨w', phase, hstep, hactive'⟩

/-- The tale of what a watcher found when it woke. -/
theorem Wakes.tallied (h : Wakes i x w.consumer) (hs : Staged w.scene w.consumer)
    (hlined : LinedUp w.consumer) (hu : Undisturbed i x up w es) :
    ∃ x' results, Tally i up (x.due up) w.consumer (w.after es).consumer x' results ∧
      x'.token = x.token ∧
      Tally.work x' (w.after es).consumer + w.turns i es ≤ 11 * x.left := by
  have hquiet := h.underWay hlined hs (w.live_of_live_after hu.live)
  have hwork : Tally.work x w.consumer = 11 * x.left := by
    obtain ⟨-, hwaiting, hactive⟩ := isQuiet_iff.1 (underWay_eq_nil.1 hquiet)
    rw [Tally.work, toGo_of_none hactive, hwaiting]
    rfl
  rw [← hwork]
  exact (h.tally hquiet up).after hs h.admits hu.live hu.calls hu.signals hu.steady'

/-- A watcher that wakes reads what it finds: as many rebuilds as the reconnects call for, or as the
closed channels do where there is no reconnect. -/
theorem backlog_law (settings : ConsumerSettings) (registry : Registry) (observers : List String)
    (s : Scene) : BacklogLaw ⟨s, ofSettings settings registry observers⟩ := by
  set start : Site := ⟨s, ofSettings settings registry observers⟩ with hstart
  have hstaged (es : List Event) : Staged (start.after es).scene (start.after es).consumer :=
    staged_after (staged_ofSettings s settings registry observers) es
  have hfitting (es : List Event) : Fitting (start.after es).consumer :=
    fitting_after (fun _ hx => absurd hx List.not_mem_nil) es
  have hlined (es : List Event) : LinedUp (start.after es).consumer :=
    linedUp_after (fun _ hi => absurd hi List.not_mem_nil)
      (staged_ofSettings s settings registry observers) es
  constructor
  case waits => exact fun past es i x hx hes => finds_after hx hes
  case discards => exact Backlog.discard_eq
  case hears =>
    intro es i x connected hwakes hlive
    have hheard := map_hear hwakes.watcher hwakes.listens hlive hwakes.admits connected
    rw [← hheard, Site.step?, Option.map_map]
    rfl
  case rebuilt =>
    intro past es i x connected w w' hwakes hundisturbed hcaughtUp
    obtain ⟨x', results, htally, -, -⟩ :=
      hwakes.tallied (hstaged past) (hlined past) hundisturbed
    obtain ⟨hunderWay, hlength, hstatus⟩ := htally.complete hcaughtUp
    refine ⟨results, ?_, ?_, htally.returned, hstatus, underWay_eq_nil.1 hunderWay⟩
    · rw [hlength, hwakes.due_eq (hfitting past)]
    · rw [htally.rebuilds, hunderWay]
      rfl
  case goesOn =>
    intro past es i x connected w w' hwakes hundisturbed
    obtain ⟨x', results, htally, htoken, -⟩ :=
      hwakes.tallied (hstaged past) (hlined past) hundisturbed
    exact htally.goesOn hwakes.admits (htoken ▸ hundisturbed.live)
  case ends =>
    intro past es i x connected w hwakes hundisturbed
    obtain ⟨x', results, -, -, hturns⟩ :=
      hwakes.tallied (hstaged past) (hlined past) hundisturbed
    rw [← hwakes.left_eq (hfitting past)]
    omega

/-- Two reconnects and a closed channel are announced after a start that has failed. The closed
channel is passed over, and nothing is left to read after two rebuilds. -/
example :
    let s := ((default : Scene).makeToken none).1
    let fails : List Label := [.enter true, .reply (.noChannel .internal)]
    let start : List Label := .start 0 :: .watch :: fails
    let signals : List Label := [.channelClosed, .reconnected, .reconnected]
    let rebuild : List Label := .hear 0 true :: fails
    let w := (⟨s, ofSettings (.ofMessageType "orderCreated") default []⟩ : Site).after
      ((start ++ signals).map .own)
    let w' := w.after ((rebuild ++ rebuild).map .own)
    w.consumer.status = .idle ∧ w'.consumer.rebuilds = w.consumer.rebuilds + 2 ∧
      w'.consumer.status = .resubscribing ∧ (w'.step? (.hear 0 true)).isNone := by
  decide

end Consumer

end MessageBus
