import MessageBus.Task.Run

/-!
# Later scenes

A scene only ever goes on to a later one: the clock does not go back, no token is forgotten, and a
token that is cancelled stays so. `Scene.Leads` is how one scene leads to another while the clock
stands still, and whatever a task does is of that kind (`leads_advance`).
-/

set_option autoImplicit false

namespace MessageBus

/-! ## Times that may never come -/

/-- Whatever time the second has come by, the first has come by it too. -/
def Sooner (a b : Option Nat) : Prop := ∀ n, b = some n → ∃ m ≤ n, a = some m

theorem sooner_refl (a : Option Nat) : Sooner a a := fun n h => ⟨n, Nat.le_refl n, h⟩

theorem sooner_none (a : Option Nat) : Sooner a none := fun _ h => (nomatch h)

theorem sooner_earlier_left (a b : Option Nat) : Sooner (earlier a b) a := by
  rintro n rfl
  obtain ⟨c, hc, hle⟩ := Tokens.earlier_le_left n b
  exact ⟨c, hle, hc⟩

/-- The earlier of two times is sooner if both are. -/
theorem Sooner.earlier {a a' b b' : Option Nat} (ha : Sooner a a') (hb : Sooner b b') :
    Sooner (earlier a b) (MessageBus.earlier a' b') := by
  intro n hn
  cases a' with
  | none =>
    have hb' : b' = some n := by simpa [MessageBus.earlier] using hn
    obtain ⟨m, hm, rfl⟩ := hb n hb'
    obtain ⟨c, hc, hle⟩ := Tokens.earlier_le_right a m
    exact ⟨c, Nat.le_trans hle hm, hc⟩
  | some x =>
    obtain ⟨m, hm, rfl⟩ := ha x rfl
    cases b' with
    | none =>
      obtain rfl : x = n := by simpa [MessageBus.earlier] using hn
      obtain ⟨c, hc, hle⟩ := Tokens.earlier_le_left m b
      exact ⟨c, Nat.le_trans hle hm, hc⟩
    | some y =>
      obtain ⟨k, hk, rfl⟩ := hb y rfl
      obtain rfl : min x y = n := by simpa [MessageBus.earlier] using hn
      exact ⟨min m k, by omega, rfl⟩

namespace Tokens

/-- Cancelling a token makes no token's time come later. -/
theorem sooner_cancelIn (time : Nat) (ns : List TokenNode) (t u : Token) :
    Sooner (cancelTimeIn (cancelIn time ns t) u) (cancelTimeIn ns u) := by
  induction ns generalizing u with
  | nil => exact sooner_refl _
  | cons n older ih =>
    by_cases ht : t = older.length
    · -- the token is the newest one, and the older ones stay as they are
      rw [cancelIn, if_pos ht, cancelTimeIn, cancelTimeIn]
      split
      · exact (sooner_earlier_left _ _).earlier (sooner_refl _)
      · exact sooner_refl _
    · rw [cancelIn, if_neg ht, cancelTimeIn, cancelTimeIn, length_cancelIn]
      split
      · refine (sooner_refl _).earlier ?_
        cases n.parent with
        | none => exact sooner_refl _
        | some p => exact ih p
      · exact ih u

theorem isCancelled_of_sooner {ts ts' : Tokens} {t t' : Token} {now now' : Nat}
    (h : Sooner (ts'.cancelTime? t') (ts.cancelTime? t)) (hnow : now ≤ now')
    (hcancelled : ts.isCancelled t now = true) : ts'.isCancelled t' now' = true := by
  unfold isCancelled at hcancelled ⊢
  cases htime : ts.cancelTime? t with
  | none => simp [htime] at hcancelled
  | some time =>
    have hle : time ≤ now := by simpa [htime] using hcancelled
    obtain ⟨m, hm, hsome⟩ := h time htime
    rw [hsome]
    exact decide_eq_true (Nat.le_trans (Nat.le_trans hm hle) hnow)

/-- Nobody has cancelled a token that was not made. -/
theorem cancelTimeIn_eq_none {ns : List TokenNode} {t : Token} (h : ns.length ≤ t) :
    cancelTimeIn ns t = none := by
  induction ns with
  | nil => rfl
  | cons n older ih =>
    rw [List.length_cons] at h
    rw [cancelTimeIn, if_neg (Nat.ne_of_gt h), ih (Nat.le_of_succ_le h)]

/-- A new token changes nothing for those that are there. -/
theorem sooner_make (ts : Tokens) (parent : Option Token) (t : Token) :
    Sooner ((ts.make parent).1.cancelTime? t) (ts.cancelTime? t) := by
  unfold make cancelTime?
  rw [cancelTimeIn]
  split
  · next ht =>
    rw [cancelTimeIn_eq_none (Nat.le_of_eq ht.symm)]
    exact sooner_none _
  · exact sooner_refl _

end Tokens

namespace Scene

/-- A scene that can come after another one. -/
structure Later (s s' : Scene) : Prop where
  now : s.now ≤ s'.now
  tokens : s.tokens.nodes.length ≤ s'.tokens.nodes.length
  cancelled : ∀ t, s.isCancelled t = true → s'.isCancelled t = true

variable {s s' s'' : Scene}

theorem later_refl (s : Scene) : Later s s := ⟨Nat.le_refl _, Nat.le_refl _, fun _ h => h⟩

theorem Later.trans (h : Later s s') (h' : Later s' s'') : Later s s'' where
  now := Nat.le_trans h.now h'.now
  tokens := Nat.le_trans h.tokens h'.tokens
  cancelled t ht := h'.cancelled t (h.cancelled t ht)

/-- What leaves the clock and the tokens alone leads to a later scene. -/
theorem later_of_same (hnow : s'.now = s.now) (htokens : s'.tokens = s.tokens) : Later s s' where
  now := Nat.le_of_eq hnow.symm
  tokens := Nat.le_of_eq (by rw [htokens])
  cancelled t ht := by
    unfold isCancelled
    rw [hnow, htokens]
    exact ht

theorem later_cancel (s : Scene) (t : Token) : Later s (s.cancel t) where
  now := Nat.le_refl _
  tokens := Nat.le_of_eq (Tokens.length_cancelIn _ _ _).symm
  cancelled u hu :=
    Tokens.isCancelled_of_sooner (Tokens.sooner_cancelIn s.now s.tokens.nodes t u)
      (Nat.le_refl _) hu

theorem later_makeToken (s : Scene) (parent : Option Token) : Later s (s.makeToken parent).1 where
  now := Nat.le_refl _
  tokens := Nat.le_succ _
  cancelled u hu :=
    Tokens.isCancelled_of_sooner (Tokens.sooner_make s.tokens parent u) (Nat.le_refl _) hu

/-! ## What leads from one scene to another -/

/-- How one scene leads to another while the clock stands still: a token is cancelled or made, or
something happens that has to do with no token, and so on. -/
inductive Leads : Scene → Scene → Prop where
  | same {s s' : Scene} (hnow : s'.now = s.now) (htokens : s'.tokens = s.tokens) : Leads s s'
  | cancel (s : Scene) (t : Token) : Leads s (s.cancel t)
  | make (s : Scene) (parent : Option Token) : Leads s (s.makeToken parent).1
  | trans {s s' s'' : Scene} (h : Leads s s') (h' : Leads s' s'') : Leads s s''

theorem leads_refl (s : Scene) : Leads s s := .same rfl rfl

/-- A scene leads to later ones only. -/
theorem Leads.later (h : Leads s s') : Later s s' := by
  induction h with
  | same hnow htokens => exact later_of_same hnow htokens
  | cancel s t => exact later_cancel s t
  | make s parent => exact later_makeToken s parent
  | trans _ _ ih ih' => exact ih.trans ih'

theorem leads_answer (s : Scene) (w : Situation) (q : Query) : Leads s (s.answer w q).2 := by
  cases q with
  | cancel => exact .cancel s s.current
  | settle what =>
    unfold answer settle?
    cases w.acknowledger with
    | scripted tag ackError nackError => exact .same rfl rfl
    | channel channel tag =>
      cases what <;> dsimp only <;> cases s.broker.requestByNumber channel _ <;>
        exact .same rfl rfl
  | note | log | clock | timer | pause | backoff | count | startSpan | finishSpan | abandonSpan
  | observers => exact .same rfl rfl

theorem leads_advance {α : Type} (w : Situation) (t : Task α) (s : Scene) :
    Leads s (t.advance w s).2 := by
  induction t generalizing s with
  | done a => exact leads_refl s
  | ask q rest ih =>
    -- the clock stands still, so the scene goes on with the answers only
    cases q
    case pause ms =>
      rw [Task.advance]
      split
      · exact ih () s
      · exact leads_refl s
    case backoff ms =>
      rw [Task.advance]
      split
      · exact ih _ s
      · split
        · exact ih _ s
        · exact leads_refl s
    all_goals
      simp only [Task.advance]
      split
      · exact (leads_answer s w _).trans (ih _ _)
      · exact leads_refl s

end Scene

end MessageBus
