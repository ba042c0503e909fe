import Mathlib.Algebra.BigOperators.Group.List.Basic
import Mathlib.Algebra.Order.Ring.Nat
import MessageBus.Proofs.Bus.Connecting
import MessageBus.Proofs.Consumer.Setup

/-!
# The capacity of consumers

A consumer that is configured for a number of workers, and for a prefetch of each of them, is made
only if both are positive, and its message type is known; so the product of the two that it asks the
broker for is never zero, which a broker would take for no bound at all. Wherever a consumer
subscribes, it says this number once, before it asks for deliveries, and it has as many workers as
it is configured for. Main statement: `capacity_law`.
-/

set_option autoImplicit false

namespace MessageBus

/-! ## Settings that can be used -/

namespace ConsumerSettings

/-- Settings with which a consumer can be made. -/
structure Usable (s : ConsumerSettings) (r : Registry) : Prop where
  named : s.messageType ≠ ""
  registered : r.contains s.messageType = true
  limit : 0 < s.concurrencyLimit.toNat
  count : 0 < s.prefetchCount.toNat

/-- Why settings cannot be used: what is said of the first thing that is wrong with them. -/
inductive Unusable (s : ConsumerSettings) (r : Registry) : String → Prop where
  | unnamed (hname : s.messageType = "") : Unusable s r "message type is required"
  | unregistered (hname : s.messageType ≠ "") (hregistered : r.contains s.messageType = false) :
      Unusable s r s!"message type {s.messageType} is not registered"
  | noWorkers (hname : s.messageType ≠ "") (hregistered : r.contains s.messageType = true)
      (hlimit : s.concurrencyLimit = 0) :
      Unusable s r s!"consumer {s.name} has a zero concurrency limit"
  | noPrefetch (hname : s.messageType ≠ "") (hregistered : r.contains s.messageType = true)
      (hlimit : s.concurrencyLimit ≠ 0) (hcount : s.prefetchCount = 0) :
      Unusable s r s!"consumer {s.name} has a zero prefetch count"

variable {s : ConsumerSettings} {r : Registry}

theorem Unusable.not_usable {text : String} (h : s.Unusable r text) : ¬ s.Usable r := by
  intro husable
  cases h with
  | unnamed hname => exact husable.named hname
  | unregistered _ hregistered => exact Bool.eq_false_iff.1 hregistered husable.registered
  | noWorkers _ _ hlimit => exact Nat.ne_of_gt husable.limit (congrArg UInt64.toNat hlimit)
  | noPrefetch _ _ _ hcount => exact Nat.ne_of_gt husable.count (congrArg UInt16.toNat hcount)

/-- The checks in their order. -/
theorem check_eq (s : ConsumerSettings) (r : Registry) :
    s.check r =
      if s.messageType = "" then .error (.configuration "message type is required")
      else if r.contains s.messageType = false then
        .error (.configuration s!"message type {s.messageType} is not registered")
      else if s.concurrencyLimit = 0 then
        .error (.configuration s!"consumer {s.name} has a zero concurrency limit")
      else if s.prefetchCount = 0 then
        .error (.configuration s!"consumer {s.name} has a zero prefetch count")
      else .ok () := by
  simp only [check, checkMessageType, String.isEmpty_iff, Bool.not_eq_true']
  split_ifs <;> rfl

theorem check_cases (s : ConsumerSettings) (r : Registry) :
    (s.Usable r ∧ s.check r = .ok ()) ∨
      ∃ text, s.Unusable r text ∧ s.check r = .error (.configuration text) := by
  rw [check_eq]
  split_ifs with hname hunregistered hlimit hcount
  · exact .inr ⟨_, .unnamed hname, rfl⟩
  · exact .inr ⟨_, .unregistered hname hunregistered, rfl⟩
  · exact .inr ⟨_, .noWorkers hname (Bool.eq_true_of_not_eq_false hunregistered) hlimit, rfl⟩
  · exact .inr ⟨_, .noPrefetch hname (Bool.eq_true_of_not_eq_false hunregistered) hlimit hcount,
      rfl⟩
  · have hlimit : 0 < s.concurrencyLimit.toNat :=
      Nat.pos_of_ne_zero fun hzero => hlimit (UInt64.toNat_inj.1 hzero)
    have hcount : 0 < s.prefetchCount.toNat :=
      Nat.pos_of_ne_zero fun hzero => hcount (UInt16.toNat_inj.1 hzero)
    exact .inl ⟨⟨hname, Bool.eq_true_of_not_eq_false hunregistered, hlimit, hcount⟩, rfl⟩

theorem check_eq_ok_iff : s.check r = .ok () ↔ s.Usable r := by
  rcases check_cases s r with ⟨husable, hcheck⟩ | ⟨text, hunusable, hcheck⟩
  · simp [hcheck, husable]
  · simp [hcheck, hunusable.not_usable]

/-! ## The number that is advertised -/

/-- Nothing is lost where a factor is cut that is too large by itself. -/
theorem min_mul_min (a b n : Nat) : min (min a n * b) n = min (a * b) n := by
  rcases Nat.le_total a n with ha | ha
  · rw [Nat.min_eq_left ha]
  · rw [Nat.min_eq_right ha]
    rcases Nat.eq_zero_or_pos b with rfl | hb
    · rfl
    · have hcut : n ≤ n * b := Nat.le_mul_of_pos_right n hb
      have hwhole : n ≤ a * b := hcut.trans (Nat.mul_le_mul_right b ha)
      rw [Nat.min_eq_right hcut, Nat.min_eq_right hwhole]

/-- The prefetch is the product itself, up to the widest number there is. -/
theorem toNat_prefetch (s : ConsumerSettings) :
    s.prefetch.toNat =
      min (s.concurrencyLimit.toNat * s.prefetchCount.toNat) (UInt16.size - 1) := by
  have hfits : min (min s.concurrencyLimit.toNat (UInt16.size - 1) * s.prefetchCount.toNat)
      (UInt16.size - 1) < UInt16.size :=
    Nat.lt_of_le_of_lt (Nat.min_le_right _ _) (by decide)
  rw [← min_mul_min]
  exact Nat.mod_eq_of_lt hfits

theorem Usable.le_prefetch (h : s.Usable r) :
    min s.concurrencyLimit.toNat (UInt16.size - 1) ≤ s.prefetch.toNat := by
  rw [toNat_prefetch]
  exact min_le_min_right _ (Nat.le_mul_of_pos_right _ h.count)

theorem Usable.prefetch_pos (h : s.Usable r) : 0 < s.prefetch.toNat :=
  Nat.lt_of_lt_of_le (lt_min h.limit (by decide)) h.le_prefetch

/-- The limit as a word of sixteen bits: the widest one, if it does not fit. -/
def limitWord (s : ConsumerSettings) : UInt16 :=
  if s.concurrencyLimit ≤ 65535 then s.concurrencyLimit.toUInt16 else 65535

/-- The product of two words, computed in one twice as wide: the widest word, if it does not fit. -/
def mulWords (a b : UInt16) : UInt16 :=
  let wide := a.toUInt32 * b.toUInt32
  if wide ≤ 65535 then wide.toUInt16 else 65535

theorem toNat_limitWord (s : ConsumerSettings) :
    s.limitWord.toNat = min s.concurrencyLimit.toNat (UInt16.size - 1) := by
  unfold limitWord
  split
  · next h =>
    have h : s.concurrencyLimit.toNat ≤ UInt16.size - 1 := UInt64.le_iff_toNat_le.1 h
    rw [Nat.min_eq_left h]
    exact Nat.mod_eq_of_lt (Nat.lt_succ_of_le h)
  · next h =>
    have h : ¬ s.concurrencyLimit.toNat ≤ 65535 := fun hle => h (UInt64.le_iff_toNat_le.2 hle)
    exact (Nat.min_eq_right (Nat.le_of_not_le h)).symm

/-- The product of two words of sixteen bits fits in thirty-two. -/
theorem toNat_mulWords (a b : UInt16) :
    (mulWords a b).toNat = min (a.toNat * b.toNat) (UInt16.size - 1) := by
  have hwide : (a.toUInt32 * b.toUInt32).toNat = a.toNat * b.toNat := by
    have hlt : a.toNat * b.toNat < 65536 * 65536 := Nat.mul_lt_mul'' a.toNat_lt b.toNat_lt
    rw [UInt32.toNat_mul]
    exact Nat.mod_eq_of_lt hlt
  unfold mulWords
  dsimp only
  split
  · next h =>
    have h : a.toNat * b.toNat ≤ UInt16.size - 1 := hwide ▸ UInt32.le_iff_toNat_le.1 h
    rw [Nat.min_eq_left h, UInt32.toNat_toUInt16, hwide]
    exact Nat.mod_eq_of_lt (Nat.lt_succ_of_le h)
  · next h =>
    have h : ¬ a.toNat * b.toNat ≤ 65535 := fun hle =>
      h (UInt32.le_iff_toNat_le.2 (hwide.symm ▸ hle))
    exact (Nat.min_eq_right (Nat.le_of_not_le h)).symm

theorem mulWords_eq_prefetch (s : ConsumerSettings) :
    mulWords s.limitWord s.prefetchCount = s.prefetch := by
  refine UInt16.toNat_inj.1 ?_
  rw [toNat_mulWords, toNat_limitWord, toNat_prefetch, min_mul_min]

/-- As many permits can be given out as there are to be, if the limit is not beyond all bounds. -/
theorem hasPermits_of_lt (h : s.concurrencyLimit.toNat < 2 ^ 61) : s.hasPermits = true := by
  have hmax : maxPermits = 2 ^ 61 - 1 := by decide
  simp only [hasPermits, permits, hmax, decide_eq_true_eq]
  omega

end ConsumerSettings

/-! ## Making a consumer -/

/-- What is done for each in turn, and comes to the end, has succeeded for each. -/
theorem forM_eq_ok {ε α : Type} {f : α → Except ε PUnit} {l : List α} {u : PUnit}
    (h : l.forM f = .ok u) (a : α) (ha : a ∈ l) : f a = .ok () := by
  induction l with
  | nil => cases ha
  | cons b rest ih =>
    simp only [List.forM, bind, Except.bind] at h
    split at h
    · cases h
    · next hb =>
      rcases List.mem_cons.1 ha with rfl | hrest
      · exact hb
      · exact ih h hrest

namespace Bus

variable {connection : Connection} {registry : Registry} {s : ConsumerSettings}

/-- A bus for one consumer is made after one check. -/
theorem ofSettings_single (h : s.hasPermits = true) :
    Bus.ofSettings connection registry [s] [] =
      ((s.check registry).mapError BuildFailure.refused).map fun _ =>
        { connection
          consumers := [Consumer.ofSettings s registry []]
          producer := .ofSettings connection.settings [] [] } := by
  unfold ofSettings
  cases hcheck : s.check registry with
  | error e => simp [hcheck]; rfl
  | ok => simp [hcheck, h]; rfl

/-- No bus has a consumer whose settings cannot be used. -/
theorem usable_of_ofSettings {b : Bus} {consumers : List ConsumerSettings}
    {producers : List ProducerSettings}
    (h : Bus.ofSettings connection registry consumers producers = .ok b) (hs : s ∈ consumers) :
    s.Usable registry := by
  simp only [ofSettings, bind, Except.bind] at h
  split at h
  · cases h
  · next hall =>
    have hchecked := forM_eq_ok hall s hs
    rcases ConsumerSettings.check_cases s registry with ⟨husable, -⟩ | ⟨text, -, hrefused⟩
    · exact husable
    · rw [hrefused] at hchecked
      cases hchecked

end Bus

/-! ## What is said of a prefetch -/

/-- A request for a prefetch. -/
def Line.isPrefetch : Line → Bool
  | .asked (.on _ (.prefetch _)) => true
  | _ => false

/-- A request for deliveries. -/
def Line.isConsume : Line → Bool
  | .asked (.on _ (.consume _ _ _)) => true
  | _ => false

/-- A prefetch is asked for once, for a channel, and granted; and only then deliveries are asked for
on that channel. -/
structure Advertised (lines : List Line) (sub : Subscription) (count : UInt16) : Prop where
  once : lines.countP Line.isPrefetch = 1
  granted : ∃ before after,
    lines = before ++ [.asked (.on sub.channel (.prefetch count)), .answered .granted] ++ after ∧
      before.any Line.isConsume = false ∧
      ∃ queue autoAck, .asked (.on sub.channel (.consume queue sub.tag autoAck)) ∈ after

/-- No release has to do with prefetches, or with deliveries. -/
theorem Released.silent {found : Option Subscription} {connected : Bool} {lines : List Line}
    {result : Outcome} (h : Released found connected lines result) :
    lines.countP Line.isPrefetch = 0 ∧ lines.any Line.isConsume = false := by
  cases h <;> exact ⟨rfl, rfl⟩

/-- A setup that gets to its end has advertised the prefetch. -/
theorem SetUp.advertised {s : ConsumerSettings} {release setup : List Line}
    {found : Option Subscription} {connected : Bool} {released : Outcome}
    {channel : Amqp.ChannelId} {tag : String} (hrelease : Released found connected release released)
    (h : SetUp s setup (.ok (channel, tag))) (pool : Nat) :
    Advertised (release ++ setup) ⟨channel, tag, pool⟩ s.prefetch := by
  obtain ⟨hprefetch, hconsume⟩ := hrelease.silent
  cases h with
  | done =>
    refine ⟨?_, release ++ openedLines channel, granted channel (s.setupMethods tag).tail, ?_, ?_,
      s.names.queue, s.autoAck, ?_⟩
    · rw [List.countP_append, hprefetch]
      rfl
    · rw [List.append_assoc, List.append_assoc]
      rfl
    · rw [List.any_append, hconsume]
      rfl
    · simp [granted, ConsumerSettings.setupMethods, ConsumerSettings.names]

/-! ## How many workers there are -/

/-- A sum in which at most one term counts. -/
theorem sum_le_of_lone {l : List Nat} {n k : Nat} (hle : ∀ a ∈ l, a ≤ n)
    (hlone : ∀ j a, l[j]? = some a → a = 0 ∨ j = k) : l.sum ≤ n := by
  induction l generalizing k with
  | nil => exact Nat.zero_le n
  | cons a rest ih =>
    rw [List.sum_cons]
    cases k with
    | zero =>
      -- nothing counts behind the first term
      have hrest : rest.sum = 0 := by
        refine List.sum_eq_zero fun b hb => ?_
        obtain ⟨j, hj⟩ := List.getElem?_of_mem hb
        have hzero : b = 0 ∨ j + 1 = 0 := hlone (j + 1) b hj
        omega
      have ha : a ≤ n := hle a List.mem_cons_self
      omega
    | succ k =>
      have ha : a = 0 ∨ 0 = k + 1 := hlone 0 a rfl
      have hrest : rest.sum ≤ n := by
        refine ih (k := k) (fun b hb => hle b (List.mem_cons_of_mem a hb)) fun j b hj => ?_
        have hlater : b = 0 ∨ j + 1 = k + 1 := hlone (j + 1) b hj
        omega
      omega

namespace Crew

/-- How many workers each pool was made with. -/
def sizes (c : Crew) : List Nat := c.views.map fun v => v.phases.length

/-- How many workers there are that are not gone. -/
def present (c : Crew) : Nat := (c.views.map fun v => v.phases.countP (!·.isGone)).sum

/-- No step makes a pool larger or smaller. -/
theorem Stepped.sizes {s s' : Scene} {c c' : Crew} {l : Label} (h : Stepped s c l s' c') :
    c'.sizes = c.sizes := by
  unfold Crew.sizes
  cases h with
  | dismiss => rfl
  | grant _ hviews | resume _ hviews | news _ _ hviews => rw [hviews]
  | arrive _ hviews | endStream _ hviews =>
    rw [hviews]
    exact (map_modify (g := id) (by simp [PoolView.endStream]) _ _).trans (List.modify_id _ _)
  | leave hv _ _ _ hviews | finish hv _ _ _ _ hviews | pullFault hv _ _ _ hviews
  | pull hv _ _ _ hviews | rest hv _ _ _ hviews =>
    rw [hviews]
    exact map_set_of_getElem? hv (by simp [PoolView.setPhase, PoolView.rest])

theorem sizes_append {c c' : Crew} {v : PoolView} (h : c'.views = c.views ++ [v]) :
    c'.sizes = c.sizes ++ [v.phases.length] := by
  simp [sizes, h]

theorem present_append {c c' : Crew} {v : PoolView} (h : c'.views = c.views ++ [v]) :
    c'.present = c.present + v.phases.countP (!·.isGone) := by
  simp [present, h]

theorem countP_eq_zero {v : PoolView} (h : v.phases.all (·.isGone) = true) :
    v.phases.countP (!·.isGone) = 0 := by
  rw [List.countP_eq_zero]
  intro phase hphase
  rw [List.all_eq_true.1 h phase hphase]
  decide

theorem present_of_gone {c : Crew}
    (h : ∀ (k : Nat) (v : PoolView), c.views[k]? = some v → v.phases.all (·.isGone) = true) :
    c.present = 0 := by
  refine List.sum_eq_zero fun a ha => ?_
  obtain ⟨v, hv, rfl⟩ := List.mem_map.1 ha
  obtain ⟨k, hk⟩ := List.getElem?_of_mem hv
  exact countP_eq_zero (h k v hk)

/-- Where no workers are left but those of one pool, there are not more than it was made with. -/
theorem present_le {c : Crew} {n k : Nat} (hsizes : ∀ size ∈ c.sizes, size = n)
    (hlone : ∀ (j : Nat) (v : PoolView), c.views[j]? = some v →
      v.phases.all (·.isGone) = true ∨ j = k) :
    c.present ≤ n := by
  refine sum_le_of_lone (k := k) (fun a ha => ?_) fun j a hj => ?_
  · obtain ⟨v, hv, rfl⟩ := List.mem_map.1 ha
    have hsize : v.phases.length = n := hsizes _ (List.mem_map_of_mem hv)
    exact hsize ▸ List.countP_le_length
  · rw [List.getElem?_map, Option.map_eq_some_iff] at hj
    obtain ⟨v, hv, rfl⟩ := hj
    exact (hlone j v hv).imp_left countP_eq_zero

end Crew

namespace Consumer

variable {s s' : Scene} {c c' : Consumer} {l : Label} {sub : Subscription} {w w' : Site}
  {a : Account}

/-- No workers are left but those of one pool. -/
theorem Sound.lone (h : Sound c) : ∃ k, ∀ (j : Nat) (v : PoolView), c.crew.views[j]? = some v →
    v.phases.all (·.isGone) = true ∨ j = k := by
  -- the one subscription that has workers is in the slot, or with the call that releases it
  have hone : ∃ k, ∀ sub ∈ c.tended, sub.pool = k := by
    cases hactive : c.active with
    | none =>
      have htended : c.tended = c.slot.toList := by
        unfold tended
        rw [hactive, List.append_nil]
      rw [htended]
      cases c.slot with
      | none => exact ⟨0, by simp⟩
      | some sub => exact ⟨sub.pool, by simp⟩
    | some holder =>
      rw [h.tended_eq hactive]
      cases holder.2 with
      | cancelling old | draining old connected | closing old =>
        exact ⟨old.pool, by simp [CallPhase.tended]⟩
      | opening | building | retiring => exact ⟨0, by simp [CallPhase.tended]⟩
  obtain ⟨k, hone⟩ := hone
  refine ⟨k, fun j v hv => (h.drained j v hv).imp_right ?_⟩
  rintro ⟨sub, hsub, rfl⟩
  exact hone sub hsub

theorem Stepped.sizes (h : Stepped s c l s' c') :
    c'.crew.sizes = c.crew.sizes ∨
      c'.crew.sizes = c.crew.sizes ++ [c.settings.concurrencyLimit.toNat] := by
  cases h with
  | work hwork => exact .inl hwork.sizes
  | channelClosed hviews _ =>
    left
    unfold Crew.sizes
    rw [hviews]
  | @installed _ channel tag _ pool _ hview _ =>
    obtain ⟨token, hview⟩ := hview
    refine .inr ((Crew.sizes_append (views_filled c pool channel tag)).trans ?_)
    rw [hview, List.length_replicate]
  | start | stop | found | hired | declined | vacant | cancels | drains | cancelled | closes
  | spared | closed | unclosed | opened | unopened | built | unbuilt | retired | gone | rebuilds
  | passes | reconnected => exact .inl rfl

/-- All pools of a consumer were made with as many workers as it is configured for. -/
def Manned (c : Consumer) : Prop :=
  ∀ size ∈ c.crew.sizes, size = c.settings.concurrencyLimit.toNat

theorem manned_ofSettings (settings : ConsumerSettings) (registry : Registry)
    (observers : List String) : Manned (ofSettings settings registry observers) := by
  intro size hnone
  cases hnone

theorem Manned.happened (h : Manned w.consumer) {e : Event} (hw : Happened w e w')
    (hsettings : w'.consumer.settings = w.consumer.settings) : Manned w'.consumer := by
  unfold Manned
  rw [hsettings]
  cases hw with
  | missed | elsewhere | told => exact h
  | took _ hstepped =>
    rcases hstepped.sizes with hsame | hone
    · rw [hsame]
      exact h
    · -- a setup has come to its end, and there is one pool more
      rw [hone]
      intro size hsize
      rcases List.mem_append.1 hsize with hsize | hsize
      · exact h size hsize
      · exact List.mem_singleton.1 hsize

/-- Whatever happens, every pool has its workers. -/
theorem Manned.after (h : Manned w.consumer) (es : List Event) : Manned (w.after es).consumer :=
  List.foldlRecOn (motive := fun w => Manned w.consumer) es Site.next h
    fun w hw e _ => hw.happened (happened_next w e) (settings_after w [e])

/-- The only step that fills the slot is the end of a setup. -/
theorem Stepped.fills (h : Stepped s c l s' c') (hnew : c'.slot = some sub)
    (hold : c.slot ≠ some sub) : ∃ call channel tag,
      c.active = some (call, .building .consume channel tag) ∧ c'.active = none := by
  cases h with
  | installed hactive _ _ => exact ⟨_, _, _, hactive, rfl⟩
  | cancels | drains => cases hnew
  | start | stop | found | hired | declined | vacant | cancelled | closes | spared | closed
  | unclosed | opened | unopened | built | unbuilt | retired | gone | rebuilds | passes
  | reconnected | channelClosed | work => exact absurd hnew hold

/-- There are just so many workers, all of them for one subscription, and all of them are idle. -/
structure Served (c : Consumer) (sub : Subscription) (workers : Nat) : Prop where
  hired : ∃ v, c.crew.views[sub.pool]? = some v ∧ v.phases = List.replicate workers .idle
  present : c.crew.present = workers

/-- A step that fills the slot has advertised the prefetch, and hired the workers. -/
theorem Informed.fills (h : Informed w.consumer.settings w a) (hsound : Sound w.consumer)
    (hstep : w.step? l = some w') (hnew : w'.consumer.slot = some sub)
    (hold : w.consumer.slot ≠ some sub) :
    Advertised (a.lines ++ w.lines (.own l)) sub w.consumer.settings.prefetch ∧
      Served w'.consumer sub w.consumer.settings.concurrencyLimit.toNat := by
  obtain ⟨call, channel, tag, hactive, hend⟩ := (Site.stepped_of_step? hstep).fills hnew hold
  have hpurpose : call.purpose ≠ .stop := (h call _ hactive).1
  obtain ⟨release, released, setup, result, hrelease, hsetup, hlines, -, hleft⟩ :=
    h.ended hsound hactive hpurpose hstep hend
  cases result with
  | error e =>
    -- a call that fails leaves the slot empty
    rw [hleft.1] at hnew
    cases hnew
  | ok made =>
    obtain ⟨hslot, ⟨pool, token, hpools, hview⟩, -⟩ := hleft
    obtain rfl := Option.some.inj (hslot.symm.trans hnew)
    have hviews : w'.consumer.crew.views = w.consumer.crew.views ++ [pool.view] := by
      simp [Crew.views, hpools]
    have hlength : w.consumer.crew.views.length = w.consumer.crew.pools.length := List.length_map _
    -- nobody is left of older subscriptions, so those who are present are the new ones
    have hgone : w.consumer.crew.present = 0 :=
      Crew.present_of_gone (hsound.gone (hsound.tended_eq hactive))
    refine ⟨hlines ▸ SetUp.advertised hrelease hsetup _, ⟨pool.view, ?_, ?_⟩, ?_⟩
    · rw [hviews, ← hlength, List.getElem?_concat_length]
    · rw [hview]
    · rw [Crew.present_append hviews, hgone, hview]
      simp [List.countP_replicate, WorkerPhase.isGone]

/-- What holds of the settings of a consumer, and of whatever becomes of the consumer. -/
structure CapacityLaw (registry : Registry) (s : ConsumerSettings) : Prop where
  /-- The consumer is made if and only if the settings can be used. -/
  made_iff : ∀ connection,
    (∃ b, Bus.ofSettings connection registry [s] [] = .ok b) ↔ s.Usable registry
  made : ∀ connection b, Bus.ofSettings connection registry [s] [] = .ok b →
    b.consumers = [ofSettings s registry []]
  /-- Otherwise there is none, and the error tells the first thing that is wrong. -/
  refused : ∀ connection, ¬ s.Usable registry → ∃ text, s.Unusable registry text ∧
    Bus.ofSettings connection registry [s] [] = .error (.refused (.configuration text))
  /-- Nor is there one in a bus that was made for more. -/
  usable : ∀ connection consumers producers b,
    Bus.ofSettings connection registry consumers producers = .ok b → s ∈ consumers →
      s.Usable registry
  /-- The prefetch is the product itself, as far as there is such a number. -/
  exact : s.prefetch.toNat =
    min (s.concurrencyLimit.toNat * s.prefetchCount.toNat) (UInt16.size - 1)
  /-- Nothing overflows where it is computed in words. -/
  words : ConsumerSettings.mulWords s.limitWord s.prefetchCount = s.prefetch
  positive : s.Usable registry → 0 < s.prefetch.toNat
  /-- There is a delivery for each worker, as far as there can be. -/
  enough : s.Usable registry → min s.concurrencyLimit.toNat (UInt16.size - 1) ≤ s.prefetch.toNat
  /-- No other prefetch is ever asked for. -/
  advertised : ∀ observers scene es channel count,
    .asked (.on channel (.prefetch count)) ∈
        (⟨scene, ofSettings s registry observers⟩ : Site).transcript es → count = s.prefetch
  /-- Whenever the consumer has got a subscription, it has advertised the prefetch in that same
  call, and all its workers are there. -/
  fills : ∀ observers scene es l w' sub,
    let start : Site := ⟨scene, ofSettings s registry observers⟩
    let w := start.after es
    w.step? l = some w' → w'.consumer.slot = some sub → w.consumer.slot ≠ some sub →
      Advertised ((start.account {} es).lines ++ w.lines (.own l)) sub s.prefetch ∧
        Served w'.consumer sub s.concurrencyLimit.toNat
  /-- There are never more workers than that. -/
  present : ∀ observers scene es,
    ((⟨scene, ofSettings s registry observers⟩ : Site).after es).consumer.crew.present ≤
      s.concurrencyLimit.toNat
  /-- It does get a subscription, if it is started and everything is granted. -/
  subscribes : ∀ observers scene token channel, ∃ tag,
    ((⟨scene, ofSettings s registry observers⟩ : Site).after
      ((([.start token, .watch, .enter true, .reply (.opened channel)] : List Label) ++
        List.replicate 5 (Label.reply .granted)).map .own)).consumer.slot = some ⟨channel, tag, 0⟩

/-- Settings that are accepted reach the broker as they are: the prefetch is the product of the
limit and the count of each worker, cut to what the broker takes, never zero, and never less than
the limit, cut in the same way; and each subscription has just as many workers as the limit says. -/
theorem capacity_law (registry : Registry) (s : ConsumerSettings)
    (hlimit : s.concurrencyLimit.toNat < 2 ^ 61) : CapacityLaw registry s where
  made_iff connection := by
    rw [Bus.ofSettings_single (ConsumerSettings.hasPermits_of_lt hlimit),
      ← ConsumerSettings.check_eq_ok_iff]
    cases s.check registry with
    | error e =>
      constructor
      · rintro ⟨b, hmade⟩
        cases hmade
      · intro hok
        cases hok
    | ok => exact ⟨fun _ => rfl, fun _ => ⟨_, rfl⟩⟩
  made connection b hmade := (Bus.of_ofSettings hmade).2.1
  refused connection hunusable := by
    rcases ConsumerSettings.check_cases s registry with ⟨husable, -⟩ | ⟨text, htext, hcheck⟩
    · exact absurd husable hunusable
    · refine ⟨text, htext, ?_⟩
      rw [Bus.ofSettings_single (ConsumerSettings.hasPermits_of_lt hlimit), hcheck]
      rfl
  usable _ _ _ _ := Bus.usable_of_ofSettings
  exact := s.toNat_prefetch
  words := s.mulWords_eq_prefetch
  positive := ConsumerSettings.Usable.prefetch_pos
  enough := ConsumerSettings.Usable.le_prefetch
  advertised observers scene es channel count h := by
    rcases method_of_mem_transcript h with ⟨step, tag, hmethod⟩ | ⟨tag, hmethod⟩ | hmethod
    · cases step <;> cases hmethod
      rfl
    · cases hmethod
    · cases hmethod
  fills observers scene es l w' sub := by
    intro start w hstep hnew hold
    have hsettings : w.consumer.settings = s := settings_after start es
    have hinformed : Informed s w (start.account {} es) :=
      informed_after (informed_ofSettings scene s registry observers) es
    have hsound : Sound w.consumer := (sound_ofSettings s registry observers).after es
    rw [← hsettings] at hinformed ⊢
    exact hinformed.fills hsound hstep hnew hold
  present observers scene es := by
    let start : Site := ⟨scene, ofSettings s registry observers⟩
    have hsound : Sound (start.after es).consumer :=
      (sound_ofSettings s registry observers).after es
    have hmanned : Manned (start.after es).consumer :=
      (manned_ofSettings s registry observers).after es
    have hsettings : (start.after es).consumer.settings = s := settings_after start es
    obtain ⟨k, hlone⟩ := hsound.lone
    rw [Manned, hsettings] at hmanned
    exact Crew.present_le hmanned hlone
  subscribes observers scene token channel := ⟨_, rfl⟩

/-- The settings of a message type, with eight workers that have up to ten deliveries each. -/
def eightTimesTen : ConsumerSettings :=
  { ConsumerSettings.ofMessageType "orderCreated" with concurrencyLimit := 8, prefetchCount := 10 }

/-- They can be used where the type is known, and the broker is asked for eighty deliveries. -/
theorem capacity_law_eightTimesTen :
    eightTimesTen.concurrencyLimit.toNat < 2 ^ 61 ∧ eightTimesTen.Usable ⟨Catalogue.usual⟩ ∧
      eightTimesTen.prefetch = 80 ∧ CapacityLaw ⟨Catalogue.usual⟩ eightTimesTen :=
  have hlimit : eightTimesTen.concurrencyLimit.toNat < 2 ^ 61 := by decide
  ⟨hlimit, ⟨by decide, by decide, by decide, by decide⟩, by decide,
    capacity_law ⟨Catalogue.usual⟩ eightTimesTen hlimit⟩

/-- The number that is advertised stops at the widest one: it does not start again at zero. -/
example : ({ eightTimesTen with concurrencyLimit := 65536 } : ConsumerSettings).prefetch =
    65535 := by decide

end Consumer

end MessageBus
