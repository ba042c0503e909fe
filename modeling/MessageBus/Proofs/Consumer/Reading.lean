import MessageBus.Proofs.Consumer.Reconnect
import MessageBus.Proofs.Consumer.Uncalled

/-!
# What a watcher has to read

A watcher reads reconnects first, and with the first of them passes over the closed channels it has
not read of. So what it has to read leads to as many rebuilds as it reads reconnects, if there are
any, and otherwise to as many as it reads closed channels while the connection is up
(`Watcher.due_next?`). In every history a backlog is such that its reads are known from the number
of its signals (`fitting_after`). The calls on a consumer take the lock in order, so a watcher that
is there to stay and listens has no rebuild of another watcher to wait for (`linedUp_after`).
-/

set_option autoImplicit false

namespace MessageBus

namespace Backlog

variable {b b' : Backlog} {signal : Signal}

/-- How many reads so many signals take. -/
def readsOf (n : Nat) : Nat := if n ≤ capacity then n else capacity + 1

/-- A backlog that some signals may have left: where some were missed, as many are kept as can
be. -/
structure Fits (b : Backlog) : Prop where
  queued : b.queued ≤ capacity
  missed : b.missed ≠ 0 → b.queued = capacity

theorem fits_empty : Fits {} where
  queued := Nat.zero_le _
  missed h := absurd rfl h

theorem Fits.push (h : b.Fits) : b.push.Fits := by
  unfold Backlog.push
  split
  · next hlt =>
    refine ⟨hlt, fun hmissed => ?_⟩
    have hfull := h.missed hmissed
    omega
  · next hfull =>
    refine ⟨h.queued, fun _ => ?_⟩
    have hle := h.queued
    show b.queued = capacity
    omega

theorem Fits.take? (h : b.Fits) (htake : b.take? = some (signal, b')) : b'.Fits := by
  unfold Backlog.take? at htake
  split at htake
  · obtain ⟨-, rfl⟩ := Prod.mk.inj (Option.some.inj htake)
    exact ⟨h.queued, fun hmissed => absurd rfl hmissed⟩
  · next hmissed =>
    split at htake
    · obtain ⟨-, rfl⟩ := Prod.mk.inj (Option.some.inj htake)
      refine ⟨Nat.le_trans (Nat.sub_le _ _) h.queued, fun hmissed' => ?_⟩
      exact absurd hmissed' hmissed
    · cases htake

/-- How many reads are left is known from the number of the signals. -/
theorem Fits.reads (h : b.Fits) : b.reads = readsOf b.unread := by
  have hle := h.queued
  unfold Backlog.reads readsOf unread
  by_cases hmissed : b.missed = 0
  · rw [if_pos hmissed, if_pos (by omega)]
    omega
  · have hfull := h.missed hmissed
    rw [if_neg hmissed, if_neg (by omega)]
    omega

theorem eq_empty (h : b.isEmpty = true) : b = {} := by
  obtain ⟨missed, queued⟩ := b
  unfold isEmpty at h
  simp only [Bool.and_eq_true, beq_iff_eq] at h
  rw [h.1, h.2]

theorem take?_eq_none : b.take? = none ↔ b.isEmpty = true := by
  constructor
  · intro h
    by_contra hnot
    obtain ⟨_, _, htake, -⟩ := exists_take? (Bool.eq_false_iff.2 hnot)
    rw [h] at htake
    cases htake
  · intro h
    rw [eq_empty h]
    rfl

theorem isEmpty_of_take? (h : b.take? = some (signal, b')) : b.isEmpty = false := by
  refine Bool.eq_false_iff.2 fun hempty => ?_
  rw [take?_eq_none.2 hempty] at h
  cases h

theorem unread_eq_zero : b.unread = 0 ↔ b.isEmpty = true := by
  unfold unread isEmpty
  simp

/-- Reads on until there is nothing left, and counts the reads. -/
def discard (b : Backlog) : Nat × Backlog :=
  match _h : b.take? with
  | none => (0, b)
  | some (_, rest) => (rest.discard.1 + 1, rest.discard.2)
termination_by b.reads
decreasing_by
  have hreads := reads_take? _h
  omega

/-- That comes to an end, with nothing left. -/
theorem discard_eq (b : Backlog) : b.discard = (b.reads, {}) := by
  fun_induction discard b with
  | case1 b hnone =>
    obtain rfl := eq_empty (take?_eq_none.1 hnone)
    rfl
  | case2 b signal rest htake ih =>
    rw [ih, reads_take? htake]

end Backlog

/-! ## Reading -/

namespace Watcher

variable {x x' : Watcher} {connected rebuilds : Bool}

/-- The next thing a watcher reads: whether it calls for a rebuild, and the watcher after it. -/
def next? (x : Watcher) (connected : Bool) : Option (Bool × Watcher) :=
  match x.reconnects.take? with
  | some (_, reconnects) => some (true, { x with reconnects, closures := x.closures.discard.2 })
  | none => x.closures.take?.map fun (_, closures) => (connected, { x with closures })

/-- How many rebuilds that calls for which a watcher has to read. -/
def due (x : Watcher) (connected : Bool) : Nat :=
  if x.reconnects.isEmpty then if connected then x.closures.reads else 0 else x.reconnects.reads

/-- How much a watcher has to read. -/
def left (x : Watcher) : Nat := x.reconnects.reads + x.closures.reads

/-- Whether there is nothing to read. -/
def hasRead (x : Watcher) : Bool := x.reconnects.isEmpty && x.closures.isEmpty

theorem next?_cases (h : x.next? connected = some (rebuilds, x')) :
    (∃ signal left, x.reconnects.take? = some (signal, left) ∧ rebuilds = true ∧
      x' = { x with reconnects := left, closures := {} }) ∨
    ∃ signal left, x.reconnects.isEmpty = true ∧ x.closures.take? = some (signal, left) ∧
      rebuilds = connected ∧ x' = { x with closures := left } := by
  unfold next? at h
  split at h
  · next signal left htake =>
    obtain ⟨rfl, rfl⟩ := Prod.mk.inj (Option.some.inj h)
    exact .inl ⟨signal, left, htake, rfl, by rw [Backlog.discard_eq]⟩
  · next hnone =>
    obtain ⟨⟨signal, left⟩, htake, hnext⟩ := Option.map_eq_some_iff.1 h
    obtain ⟨rfl, rfl⟩ := Prod.mk.inj hnext
    exact .inr ⟨signal, left, Backlog.take?_eq_none.1 hnone, htake, rfl, rfl⟩

/-- A watcher stays what it is when it reads, ... -/
theorem same_next? (h : x.next? connected = some (rebuilds, x')) :
    x'.phase = x.phase ∧ x'.token = x.token := by
  rcases next?_cases h with ⟨_, _, -, -, rfl⟩ | ⟨_, _, -, -, -, rfl⟩
  · exact ⟨rfl, rfl⟩
  · exact ⟨rfl, rfl⟩

/-- ... and has no closed channel left to read of after a reconnect. -/
theorem closures_next? (h : x.next? connected = some (rebuilds, x')) :
    x'.closures.isEmpty = true ∨ (x.reconnects.isEmpty = true ∧ x.closures.isEmpty = false) := by
  rcases next?_cases h with ⟨_, _, -, -, rfl⟩ | ⟨_, _, hnone, htake, -, rfl⟩
  · exact .inl rfl
  · exact .inr ⟨hnone, Backlog.isEmpty_of_take? htake⟩

/-- A read takes away the rebuild it calls for. Whether the connection is up matters only where no
reconnect is left. -/
theorem due_next? {up : Bool} (h : x.next? connected = some (rebuilds, x'))
    (hup : x.reconnects.isEmpty = true → connected = up) :
    x.due up = (if rebuilds then 1 else 0) + x'.due up := by
  rcases next?_cases h with ⟨signal, left, htake, rfl, rfl⟩ | ⟨signal, left, hnone, htake, rfl, rfl⟩
  · have hreads := Backlog.reads_take? htake
    have hleft : ({ x with reconnects := left, closures := {} } : Watcher).due up = left.reads := by
      unfold due
      split
      · next hempty =>
        obtain rfl : left = {} := Backlog.eq_empty hempty
        cases up <;> rfl
      · rfl
    rw [hleft, due, Backlog.isEmpty_of_take? htake, hreads]
    exact Nat.add_comm _ _
  · have hreads := Backlog.reads_take? htake
    obtain rfl := hup hnone
    simp only [due, hnone, if_true, hreads]
    cases rebuilds with
    | true => exact Nat.add_comm _ _
    | false => rfl

/-- Each read leaves less to read. -/
theorem left_next? (h : x.next? connected = some (rebuilds, x')) : x'.left < x.left := by
  unfold left
  rcases next?_cases h with ⟨signal, left, htake, -, rfl⟩ | ⟨signal, left, -, htake, -, rfl⟩
  · have hreads := Backlog.reads_take? htake
    have hnone : ({} : Backlog).reads = 0 := rfl
    dsimp only
    omega
  · have hreads := Backlog.reads_take? htake
    dsimp only
    omega

theorem exists_next? (h : x.hasRead = false) (connected : Bool) :
    ∃ rebuilds x', x.next? connected = some (rebuilds, x') := by
  unfold next?
  cases htake : x.reconnects.take? with
  | some r => exact ⟨_, _, rfl⟩
  | none =>
    have hunread : x.closures.isEmpty = false := by
      simpa [hasRead, Backlog.take?_eq_none.1 htake] using h
    obtain ⟨signal, left, htake', -⟩ := Backlog.exists_take? hunread
    exact ⟨_, _, by rw [htake']; rfl⟩

theorem next?_eq_none (h : x.hasRead = true) : x.next? connected = none := by
  unfold hasRead at h
  rw [Bool.and_eq_true] at h
  unfold next?
  rw [Backlog.take?_eq_none.2 h.1, Backlog.take?_eq_none.2 h.2]
  rfl

theorem due_of_hasRead (h : x.hasRead = true) : x.due connected = 0 := by
  unfold hasRead at h
  rw [Bool.and_eq_true] at h
  rw [due, if_pos h.1, Backlog.eq_empty h.2]
  cases connected <;> rfl

end Watcher

namespace Consumer

/-- A watcher has read something that calls for a rebuild, and begins one, or that does not. -/
def heeds (c : Consumer) (i : Nat) (rebuilds : Bool) (x : Watcher) : Consumer :=
  if rebuilds then { c with
    status := .resubscribing
    rebuilds := c.rebuilds + 1
    calls := c.calls + 1
    waiting := c.waiting ++ [⟨c.calls, .rebuild i⟩]
    watchers := c.watchers.set i { x with phase := .rebuilding } }
  else { c with watchers := c.watchers.set i x }

variable {s s' : Scene} {c c' : Consumer} {l : Label} {w w' : Site} {e : Event} {i : Nat}
  {x : Watcher} {connected : Bool}

theorem beginRebuild_eq (hadmits : c.status.admitsRebuild = true) :
    (c.beginRebuild s i x).2 = c.heeds i true x := by
  unfold beginRebuild
  rw [if_pos hadmits]
  rfl

/-- A watcher that is there to stay and listens heeds what it reads, where rebuilds are admitted. -/
theorem map_hear (hx : c.watchers[i]? = some x) (hphase : x.phase = .listening)
    (hlive : s.isCancelled x.token = false) (hadmits : c.status.admitsRebuild = true)
    (connected : Bool) :
    (c.hear s i connected).map Prod.snd =
      (x.next? connected).map fun r => c.heeds i r.1 r.2 := by
  unfold hear Watcher.next?
  simp only [hx, Option.bind_eq_bind, Option.bind_some, hphase, hlive, ne_eq, not_true_eq_false,
    if_false, Bool.false_eq_true]
  cases x.reconnects.take? with
  | some r =>
    obtain ⟨signal, reconnects⟩ := r
    simp only [Option.map_some, hearReconnect]
    rw [beginRebuild_eq hadmits, Backlog.discard_eq]
  | none =>
    cases x.closures.take? with
    | none => rfl
    | some r =>
      obtain ⟨signal, closures⟩ := r
      cases connected with
      | true =>
        simp only [Option.map_some, if_true]
        rw [beginRebuild_eq hadmits]
      | false => rfl

/-- A watcher that is to go does so. -/
theorem hear_of_cancelled (hx : c.watchers[i]? = some x) (hcancelled : s.isCancelled x.token = true)
    (h : c.hear s i connected = some (s', c')) :
    c' = { c with watchers := c.watchers.set i { x with phase := .gone } } := by
  unfold hear at h
  simp only [hx, Option.bind_eq_bind, Option.bind_some, hcancelled, if_true] at h
  split at h
  · cases h
  · exact (congrArg Prod.snd (Option.some.inj h)).symm

/-- Whatever a watcher hears, it is left with what it had to read, or with one thing less. -/
theorem watchers_hear (h : c.hear s i connected = some (s', c')) :
    ∃ x x', c.watchers[i]? = some x ∧ c'.watchers = c.watchers.set i x' ∧
      (x'.reconnects = x.reconnects ∨
        ∃ signal, x.reconnects.take? = some (signal, x'.reconnects)) ∧
      (x'.closures = x.closures ∨ x'.closures = {} ∨
        ∃ signal, x.closures.take? = some (signal, x'.closures)) := by
  have hbegins (s : Scene) (c : Consumer) (x : Watcher) : ∃ phase,
      (c.beginRebuild s i x).2.watchers = c.watchers.set i { x with phase } := by
    unfold beginRebuild
    split
    · exact ⟨.rebuilding, rfl⟩
    · exact ⟨x.phase, rfl⟩
  obtain ⟨x, hx, h⟩ := Option.bind_eq_some_iff.1 h
  split at h
  · cases h
  split at h
  · obtain ⟨-, rfl⟩ := fst_snd_of_some h
    exact ⟨x, _, hx, rfl, .inl rfl, .inl rfl⟩
  split at h
  · -- a reconnect
    next signal left htake =>
    obtain ⟨-, rfl⟩ := fst_snd_of_some h
    obtain ⟨phase, hwatchers⟩ := hbegins _ c _
    exact ⟨x, _, hx, hwatchers, .inr ⟨signal, htake⟩, .inr (.inl rfl)⟩
  · split at h
    · cases h
    · next signal left htake =>
      split at h
      · obtain ⟨-, rfl⟩ := fst_snd_of_some h
        obtain ⟨phase, hwatchers⟩ := hbegins _ c _
        exact ⟨x, _, hx, hwatchers, .inl rfl, .inr (.inr ⟨signal, htake⟩)⟩
      · obtain ⟨-, rfl⟩ := fst_snd_of_some h
        exact ⟨x, _, hx, rfl, .inl rfl, .inr (.inr ⟨signal, htake⟩)⟩

/-! ## The backlogs in a history -/

/-- What every watcher has to read may have been left by some signals. -/
def Fitting (c : Consumer) : Prop := ∀ x ∈ c.watchers, x.reconnects.Fits ∧ x.closures.Fits

theorem Fitting.of_eq (h : Fitting c) (hwatchers : c'.watchers = c.watchers) : Fitting c' := by
  intro x hx
  exact h x (hwatchers ▸ hx)

theorem Fitting.release (h : Fitting c) (p : Purpose)
    (hwatchers : c'.watchers = p.release c.watchers) : Fitting c' := by
  intro x hx
  rw [hwatchers] at hx
  cases p with
  | start | stop => exact h x hx
  | rebuild i =>
    obtain ⟨j, hj⟩ := List.getElem?_of_mem hx
    rw [Purpose.release, List.getElem?_modify] at hj
    obtain ⟨y, hy, rfl⟩ := Option.map_eq_some_iff.1 hj
    have hfits := h y (List.mem_of_getElem? hy)
    split
    · exact hfits
    · exact hfits

theorem Fitting.step (h : Fitting c) (hstep : c.step s l = some (s', c')) : Fitting c' := by
  have hstepped := stepped_of_step hstep
  by_cases hl : ∃ i connected, l = .hear i connected
  · obtain ⟨i, connected, rfl⟩ := hl
    obtain ⟨x, x', hx, hwatchers, hreconnects, hclosures⟩ := watchers_hear hstep
    obtain ⟨hr, hc⟩ := h x (List.mem_of_getElem? hx)
    intro y hy
    rw [hwatchers] at hy
    rcases List.mem_or_eq_of_mem_set hy with hy | rfl
    · exact h y hy
    constructor
    · rcases hreconnects with hsame | ⟨signal, htake⟩
      · rwa [hsame]
      · exact hr.take? htake
    · rcases hclosures with hsame | hnone | ⟨signal, htake⟩
      · rwa [hsame]
      · rw [hnone]
        exact Backlog.fits_empty
      · exact hc.take? htake
  · cases hstepped with
    | gone | rebuilds | passes => exact absurd ⟨_, _, rfl⟩ hl
    | hired =>
      intro x hx
      rcases List.mem_append.1 hx with hx | hx
      · exact h x hx
      · rw [List.mem_singleton.1 hx]
        exact ⟨Backlog.fits_empty, Backlog.fits_empty⟩
    | reconnected =>
      intro x hx
      obtain ⟨y, hy, rfl⟩ := List.mem_map.1 hx
      exact ⟨(h y hy).1.push, (h y hy).2⟩
    | channelClosed =>
      intro x hx
      obtain ⟨y, hy, rfl⟩ := List.mem_map.1 hx
      exact ⟨(h y hy).1, (h y hy).2.push⟩
    | declined | unopened | unbuilt | installed => exact h.release _ rfl
    | start | stop | found | vacant | cancels | drains | cancelled | closes | spared | closed
    | unclosed | opened | built | retired | work => exact h.of_eq rfl

theorem fitting_after (h : Fitting w.consumer) (es : List Event) :
    Fitting (w.after es).consumer := by
  refine List.foldlRecOn (motive := fun w => Fitting w.consumer) es Site.next h
    fun w hw e _ => ?_
  have hnext := happened_next w e
  generalize w.next e = w' at hnext
  cases hnext with
  | missed | elsewhere => exact hw
  | took hstep => exact hw.step (Site.step?_eq_some.1 hstep)
  | told => exact hw.of_eq rfl

/-! ## Whom a watcher waits for -/

/-- A rebuild that is under way is for the newest watcher, unless a start is in line behind it. -/
def LinedUp (c : Consumer) : Prop :=
  ∀ i, .rebuild i ∈ c.underWay →
    i + 1 = c.watchers.length ∨ [Want.rebuild i, .start].Sublist c.underWay

theorem length_watchers (h : Stepped s c l s' c') (hl : l ≠ .watch) :
    c'.watchers.length = c.watchers.length := by
  have hrelease (p : Purpose) : (p.release c.watchers).length = c.watchers.length := by
    cases p with
    | start | stop => rfl
    | rebuild => exact List.length_modify ..
  cases h with
  | found | hired => exact absurd rfl hl
  | declined | unopened | unbuilt | installed => exact hrelease _
  | gone | rebuilds | passes => exact List.length_set ..
  | reconnected | channelClosed => exact List.length_map ..
  | start | stop | vacant | cancels | drains | cancelled | closes | spared | closed | unclosed
  | opened | built | retired | work => rfl

/-- Starts that have not looked for a watcher are in line behind all rebuilds. -/
theorem sublist_underWay (hentering : c.entering ≠ []) (hi : .rebuild i ∈ c.underWay) :
    [Want.rebuild i, .start].Sublist c.underWay := by
  have hstarts : .start ∈ List.replicate c.entering.length Want.start := by
    rw [List.mem_replicate, Ne, List.length_eq_zero_iff]
    exact ⟨hentering, rfl⟩
  have hline : Want.rebuild i ∈ c.inLine.map fun call => call.purpose.want := by
    refine (List.mem_append.1 hi).resolve_right fun hi => ?_
    cases List.eq_of_mem_replicate hi
  exact (List.singleton_sublist.2 hline).append (List.singleton_sublist.2 hstarts)

/-- A start that looks for a watcher keeps its place. -/
theorem underWay_watch (h : Stepped s c .watch s' c') :
    c.entering ≠ [] ∧ c'.underWay = c.underWay := by
  cases h with
  | found hentering | hired hentering =>
    refine ⟨by rw [hentering]; exact List.cons_ne_nil _ _, ?_⟩
    simp [underWay, inLine, hentering, Purpose.want, List.replicate_succ]

theorem LinedUp.stepped (h : LinedUp c) (hs : Staged s c) (hstepped : Stepped s c l s' c') :
    LinedUp c' := by
  by_cases hl : l = .watch
  · subst hl
    obtain ⟨hentering, hunderWay⟩ := underWay_watch hstepped
    intro i hi
    rw [hunderWay] at hi ⊢
    exact .inr (sublist_underWay hentering hi)
  have hlength := length_watchers hstepped hl
  -- what comes into line leaves the order of the others alone
  have hinto {want : Want} (hwant : ∀ i, want ≠ .rebuild i ∨ i + 1 = c.watchers.length)
      (hunderWay : ∃ front back, c.underWay = front ++ back ∧ c'.underWay = front ++ want :: back) :
      LinedUp c' := by
    obtain ⟨front, back, hfront, hback⟩ := hunderWay
    have hsub : c.underWay.Sublist c'.underWay := by
      rw [hfront, hback]
      exact (List.Sublist.refl front).append (List.sublist_cons_self want back)
    intro i hi
    rw [hlength]
    rcases hwant i with hother | hnewest
    · have hold : .rebuild i ∈ c.underWay := by
        rw [hback, List.mem_append, List.mem_cons] at hi
        rw [hfront, List.mem_append]
        exact hi.imp_right (Or.resolve_left · (Ne.symm hother))
      exact (h i hold).imp_right fun hbehind => hbehind.trans hsub
    · exact .inl hnewest
  -- what leaves the line stood in front of it
  have houtOf {want : Want} (hunderWay : c.underWay = want :: c'.underWay) : LinedUp c' := by
    intro i hi
    have hcount := hs.rebuilding i
    have hin : 0 < c'.underWay.count (.rebuild i) := List.count_pos_iff.2 hi
    rw [hunderWay, List.count_cons] at hcount
    have hbehind := h i (by rw [hunderWay]; exact List.mem_cons_of_mem _ hi)
    rw [hlength]
    refine hbehind.imp_right fun hbehind => ?_
    rw [hunderWay] at hbehind
    rcases List.sublist_cons_iff.1 hbehind with hrest | ⟨rest, hrest, -⟩
    · exact hrest
    · -- it would stand in line twice
      obtain ⟨rfl, -⟩ := List.cons.inj hrest
      simp only [beq_self_eq_true, if_true] at hcount
      split at hcount <;> omega
  cases hs.turned hstepped with
  | keeps _ _ _ hunderWay | takes _ _ _ hunderWay =>
    intro i hi
    rw [hunderWay] at hi ⊢
    rw [hlength]
    exact h i hi
  | starts _ _ hunderWay =>
    have hstart (i : Nat) : Want.start ≠ .rebuild i ∨ i + 1 = c.watchers.length := .inl (by simp)
    exact hinto hstart ⟨c.underWay, [], by simp, hunderWay⟩
  | stops _ _ hunderWay => exact hinto (fun i => .inl (by simp)) hunderWay
  | @rebuilds i x hx _ hlive _ _ hunderWay =>
    refine hinto (fun j => ?_) hunderWay
    by_cases hij : i = j
    · exact .inr (hij ▸ hs.watched.succ_eq_length hx hlive)
    · exact .inl fun heq => hij (Want.rebuild.inj heq)
  | declines _ _ _ hunderWay | ends _ _ hunderWay | retires _ _ hunderWay => exact houtOf hunderWay

theorem linedUp_after (h : LinedUp w.consumer) (hs : Staged w.scene w.consumer) (es : List Event) :
    LinedUp (w.after es).consumer := by
  refine (List.foldlRecOn (motive := fun w => LinedUp w.consumer ∧ Staged w.scene w.consumer) es
    Site.next ⟨h, hs⟩ fun w hw e _ => ⟨?_, hw.2.happened (happened_next w e)⟩).1
  have hnext := happened_next w e
  generalize w.next e = w' at hnext
  cases hnext with
  | missed | elsewhere | told => exact hw.1
  | took _ hstepped => exact hw.1.stepped hw.2 hstepped

/-- So one that is there to stay and listens has nothing to wait for, unless somebody starts or
stops the consumer. -/
theorem LinedUp.underWay_eq_nil (h : LinedUp c) (hs : Staged s c) (hx : c.watchers[i]? = some x)
    (hphase : x.phase = .listening) (hlive : s.isCancelled x.token = false)
    (hstart : .start ∉ c.underWay) (hstop : .stop ∉ c.underWay) : c.underWay = [] := by
  refine List.eq_nil_iff_forall_not_mem.2 fun want hwant => ?_
  cases want with
  | start => exact hstart hwant
  | stop => exact hstop hwant
  | rebuild j =>
    rcases h j hwant with hnewest | hbehind
    · obtain rfl : i = j := by
        have hlength := hs.watched.succ_eq_length hx hlive
        omega
      have hcount := hs.rebuilding i
      have hidle : c.isRebuilding i = false := by simp [isRebuilding, hx, hphase]
      rw [hidle, if_neg Bool.false_ne_true, List.count_eq_zero] at hcount
      exact hcount hwant
    · exact hstart (hbehind.subset (by simp))

end Consumer

end MessageBus
