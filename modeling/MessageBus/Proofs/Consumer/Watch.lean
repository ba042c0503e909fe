import MessageBus.Proofs.Consumer.History

/-!
# Watchers and their tokens

A consumer may have had several watchers, but at most one of them is there to stay: the newest one,
as long as the consumer works below its token. The tokens of all others are cancelled
(`watched_after`).
-/

set_option autoImplicit false

namespace MessageBus

theorem Purpose.token_release (p : Purpose) (watchers : List Watcher) :
    (p.release watchers).map Watcher.token = watchers.map Watcher.token := by
  cases p with
  | start | stop => rfl
  | rebuild watcher =>
    apply List.ext_getElem?
    intro n
    simp only [release, List.getElem?_map, List.getElem?_modify]
    split <;> cases watchers[n]? <;> rfl

namespace Consumer

/-- The tokens of the watchers. -/
def watchTokens (c : Consumer) : List Token := c.watchers.map Watcher.token

/-- What holds of the tokens of the watchers in every history. -/
structure Watched (s : Scene) (c : Consumer) : Prop where
  known : ∀ t, c.watchToken = some t → t < s.tokens.nodes.length
  /-- A watcher whose token is not cancelled is the newest one, and the consumer works below it. -/
  newest : ∀ (i : Nat) (t : Token), c.watchTokens[i]? = some t → s.isCancelled t = true ∨
    (c.watchToken = some t ∧ i + 1 = c.watchTokens.length)

theorem watched_ofSettings (s : Scene) (settings : ConsumerSettings) (registry : Registry)
    (observers : List String) : Watched s (ofSettings settings registry observers) where
  known _ h := nomatch h
  newest _ _ h := nomatch h

variable {s s' : Scene} {c c' : Consumer} {l : Label} {w w' : Site} {e : Event}

theorem Watched.of_same (h : Watched s c) (hlater : s.Later s')
    (hwatch : c'.watchToken = c.watchToken) (htokens : c'.watchTokens = c.watchTokens) :
    Watched s' c' where
  known t ht := Nat.lt_of_lt_of_le (h.known t (hwatch ▸ ht)) hlater.tokens
  newest i t ht := by
    rw [htokens] at ht ⊢
    rw [hwatch]
    exact (h.newest i t ht).imp_left (hlater.cancelled t)

theorem getElem?_watchTokens {i : Nat} {x : Watcher} (hx : c.watchers[i]? = some x) :
    c.watchTokens[i]? = some x.token := by
  rw [watchTokens, List.getElem?_map, hx]
  rfl

/-- A watcher whose token is not cancelled is the newest one. -/
theorem Watched.succ_eq_length (h : Watched s c) {i : Nat} {x : Watcher}
    (hx : c.watchers[i]? = some x) (hlive : s.isCancelled x.token = false) :
    i + 1 = c.watchers.length := by
  rcases h.newest i x.token (getElem?_watchTokens hx) with hcancelled | ⟨-, hlast⟩
  · rw [hlive] at hcancelled
    cases hcancelled
  · rw [hlast, watchTokens, List.length_map]

/-- A watcher that is set to another phase keeps its token. -/
theorem watchTokens_set {watcher : Nat} {x x' : Watcher} (hx : c.watchers[watcher]? = some x)
    (htoken : x'.token = x.token) :
    (c.watchers.set watcher x').map Watcher.token = c.watchers.map Watcher.token := by
  rw [List.map_set, htoken]
  exact set_of_getElem? (getElem?_watchTokens hx)

theorem Watched.stepped (h : Watched s c) (hs : Stepped s c l s' c') : Watched s' c' := by
  have hlater := hs.later
  cases hs with
  | start | stop | found | vacant | cancels | drains | cancelled | closes | spared | closed
  | unclosed | opened | built | work => exact h.of_same hlater rfl rfl
  | declined | unopened | unbuilt | installed =>
    exact h.of_same hlater rfl (Purpose.token_release _ _)
  | gone hx | rebuilds hx | passes hx => exact h.of_same hlater rfl (watchTokens_set hx rfl)
  | reconnected | channelClosed => exact h.of_same hlater rfl (by simp [watchTokens])
  | retired hactive htoken _ =>
    refine ⟨fun t ht => (nomatch ht), fun i t ht => .inl ?_⟩
    rcases h.newest i t ht with hcancelled | ⟨hwatch, -⟩
    · exact hlater.cancelled t hcancelled
    · exact htoken t hwatch (h.known t hwatch)
  | @hired id parent entering hentering hnone =>
    have hlength : (s.makeToken (some parent)).1.tokens.nodes.length =
        (s.makeToken (some parent)).2 + 1 := rfl
    refine ⟨?_, ?_⟩
    · intro t ht
      obtain rfl : _ = t := Option.some.inj ht
      rw [hlength]
      exact Nat.lt_succ_self _
    · intro i t ht
      simp only [watchTokens, List.map_append, List.map_cons, List.map_nil] at ht ⊢
      rw [List.getElem?_append] at ht
      split at ht
      · -- the token of an older watcher
        refine .inl (hlater.cancelled t ?_)
        rcases h.newest i t ht with hcancelled | ⟨hwatch, -⟩
        · exact hcancelled
        · exact hnone t hwatch
      · next hi =>
        obtain ⟨hlt, rfl⟩ := List.getElem?_eq_some_iff.1 ht
        have hi' : i = (c.watchers.map Watcher.token).length := by
          simp only [List.length_singleton] at hlt
          omega
        refine .inr ⟨by simp, ?_⟩
        simp [hi']

theorem Watched.happened (h : Watched w.scene w.consumer) (hw : Happened w e w') :
    Watched w'.scene w'.consumer := by
  cases hw with
  | missed => exact h
  | took _ hs => exact h.stepped hs
  | elsewhere hlater => exact h.of_same hlater rfl rfl
  | told => exact h.of_same (Scene.later_refl _) rfl rfl

theorem watched_after (h : Watched w.scene w.consumer) (es : List Event) :
    Watched (w.after es).scene (w.after es).consumer :=
  List.foldlRecOn (motive := fun w => Watched w.scene w.consumer) es Site.next h
    fun w hw e _ => hw.happened (happened_next w e)

end Consumer

end MessageBus
