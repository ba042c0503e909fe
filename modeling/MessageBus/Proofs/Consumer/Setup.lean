import MessageBus.Bus
import MessageBus.Proofs.Consumer.Dialogue

/-!
# How a consumer subscribes

A start or a rebuild that gets the lock releases the subscription it finds, waits until all workers
are gone, and then makes its requests one after the other, up to the first that fails; the error is
that of the request. In the end the consumer has the new subscription, with its full number of
workers, or none and no worker at all. Main statement: `subscribe_law`.
-/

set_option autoImplicit false

namespace MessageBus.Consumer

/-- What a call that was to subscribe leaves behind: a subscription with a new pool of idle workers,
or nothing. The workers of all older pools are gone. -/
def LeftWith (before after : Consumer) : Except BusError (Amqp.ChannelId × String) → Prop
  | .error _ => after.slot = none ∧ ∀ k, after.crew.isDrained k = true
  | .ok (channel, tag) =>
    after.slot = some ⟨channel, tag, before.crew.pools.length⟩ ∧
      (∃ pool token, after.crew.pools = before.crew.pools ++ [pool] ∧ pool.view =
        ⟨token, [], true, List.replicate before.settings.concurrencyLimit.toNat .idle⟩) ∧
      ∀ k < before.crew.pools.length, after.crew.isDrained k = true

/-- More pools change nothing for the ones that are there. -/
theorem isDrained_append {c : Crew} {pools : List Pool} {k : Nat} (hk : k < c.pools.length) :
    ({ c with pools := c.pools ++ pools } : Crew).isDrained k = c.isDrained k := by
  unfold Crew.isDrained
  rw [List.getElem?_append_left hk]

variable {s : ConsumerSettings} {w w' : Site} {a : Account} {call : Call} {phase : CallPhase}
  {l : Label}

/-- A setup that ends at one of its requests. -/
theorem setUp_refused (s : ConsumerSettings) (channel : Amqp.ChannelId) (tag : String)
    (step : SetupStep) :
    SetUp s
      (openedLines channel ++ granted channel ((s.setupMethods tag).take step.place) ++
        [.asked (.on channel (step.method s s.names tag)), .answered .refused])
      (.error (step.error s.names)) :=
  .refused (SetupStep.getElem?_setupMethods s tag step) (SetupStep.getElem?_setupErrors s step)

/-- What a call has said is the beginning of a release; or of a release and a setup, if the call is
no stop. -/
theorem Told.order (h : Told s a call phase) :
    ∃ release released, Released a.found a.connected release released ∧
      (a.lines <+: release ∨ (call.purpose ≠ .stop ∧
        ∃ setup result, SetUp s setup result ∧ a.lines <+: release ++ setup)) := by
  cases phase with
  | cancelling old =>
    obtain ⟨hfound, hconnected, hsofar⟩ := h
    rw [hfound, hconnected, hsofar]
    exact ⟨_, _, .lost (.inl rfl), .inl ⟨_, rfl⟩⟩
  | draining old connected =>
    obtain ⟨hfound, rfl, hsofar⟩ := h
    rw [hfound]
    split at hsofar
    · next hconnected =>
      obtain ⟨r, hr, hlines⟩ := hsofar
      rw [hconnected, hlines]
      exact ⟨_, _, .lost hr, .inl ⟨_, rfl⟩⟩
    · next hconnected =>
      have hoffline : Released (some old) false [.drained false] (.ok ()) := .offline
      rw [Bool.eq_false_iff.2 hconnected, hsofar]
      exact ⟨_, _, hoffline, .inl List.nil_prefix⟩
  | closing old =>
    obtain ⟨hfound, hconnected, r, hr, hsofar⟩ := h
    rw [hfound, hconnected, hsofar]
    exact ⟨_, _, .closed hr, .inl ⟨_, rfl⟩⟩
  | opening =>
    obtain ⟨hpurpose, release, result, hrelease, hsofar⟩ := h
    have hunopened : SetUp s [.asked .openChannel, .answered (.noChannel .internal)]
      (.error .internal) := .unopened
    refine ⟨release, result, hrelease, .inr ⟨hpurpose, _, _, hunopened, ?_⟩⟩
    rw [hsofar, List.prefix_append_right_inj]
    exact ⟨_, rfl⟩
  | building step channel tag =>
    obtain ⟨hpurpose, release, result, hrelease, hsofar⟩ := h
    have hrefused := setUp_refused s channel tag step
    refine ⟨release, result, hrelease, .inr ⟨hpurpose, _, _, hrefused, ?_⟩⟩
    rw [hsofar, List.prefix_append_right_inj, List.prefix_append_right_inj]
    exact ⟨_, rfl⟩
  | retiring result => exact ⟨a.lines, result, h.2, .inl (List.prefix_refl _)⟩

/-- How a call ends that was to subscribe. -/
theorem Informed.ended (h : Informed w.consumer.settings w a) (hsound : Sound w.consumer)
    (hactive : w.consumer.active = some (call, phase)) (hpurpose : call.purpose ≠ .stop)
    (hstep : w.step? l = some w') (hend : w'.consumer.active = none) :
    ∃ release released setup result, Released a.found a.connected release released ∧
      SetUp w.consumer.settings setup result ∧ a.lines ++ w.lines (.own l) = release ++ setup ∧
      w'.consumer.returned = w.consumer.returned ++ [(call.id, result.map fun _ => ())] ∧
      LeftWith w.consumer w'.consumer result := by
  obtain ⟨s', c'⟩ := w'
  have hslot : w.consumer.slot = none := hsound.slot (by rw [hactive]; rfl)
  have htold := h call phase hactive
  rw [lines_of_step? hstep]
  cases (stepped_of_step (Site.step?_eq_some.1 hstep)).concluded hactive hend with
  | retired =>
    -- only a stop has an end of this kind
    exact absurd htold.1 hpurpose
  | unopened =>
    obtain ⟨-, release, released, hrelease, hsofar⟩ := htold
    refine ⟨release, released, _, .error _, hrelease, .unopened, ?_, rfl, hslot, ?_⟩
    · rw [hsofar, List.append_assoc]
      rfl
    · exact Crew.isDrained_of_views (hsound.gone (hsound.tended_eq hactive))
  | @unbuilt step channel tag =>
    obtain ⟨-, release, released, hrelease, hsofar⟩ := htold
    have hrefused := setUp_refused w.consumer.settings channel tag step
    refine ⟨release, released, _, .error _, hrelease, hrefused, ?_, rfl, hslot, ?_⟩
    · rw [hsofar]
      simp only [List.append_assoc]
      rfl
    · exact Crew.isDrained_of_views (hsound.gone (hsound.tended_eq hactive))
  | @installed channel tag pool hview =>
    obtain ⟨-, release, released, hrelease, hsofar⟩ := htold
    obtain ⟨token, hview⟩ := hview
    refine ⟨release, released, _, .ok (channel, tag), hrelease, .done, ?_, rfl, rfl,
      ⟨pool, token, rfl, hview⟩, ?_⟩
    · rw [hsofar]
      simp only [List.append_assoc]
      rfl
    · intro k hk
      have hdrained := Crew.isDrained_of_views (hsound.gone (hsound.tended_eq hactive)) k
      exact (isDrained_append hk).trans hdrained

/-- A start whose requests are all granted fills the slot. -/
example : ((⟨default, ofSettings default default []⟩ : Site).after
    ((([.start 0, .watch, .enter true, .reply (.opened 7)] : List Label) ++
      List.replicate 5 (Label.reply .granted)).map .own)).consumer.slot =
    some ⟨7, "-0", 0⟩ := by decide

end MessageBus.Consumer
