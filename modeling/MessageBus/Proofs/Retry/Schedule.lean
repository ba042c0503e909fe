import Mathlib.Order.Bounds.Basic
import MessageBus.Proofs.Task.Course
import MessageBus.Retry.Run

/-!
# The schedule of a run

When the attempts of a run under a retry policy begin and end, for an operation of which each
attempt takes some time and has some result. Without a cancellation the attempts go on to the first
success, or until they are used up; a cancellation lets an attempt that is under way come to its end
and admits no further one. Main statement: `schedule_law`.
-/

set_option autoImplicit false

namespace MessageBus

/-- An operation: how many milliseconds an attempt takes, and what comes of it. -/
structure Operation where
  duration : Nat → Nat
  result : Nat → Outcome

namespace Operation

/-- An attempt, with its beginning and its end written to the journal. -/
def attempt (o : Operation) (k : Nat) : Task Outcome := do
  Task.note 0 (.attempted k)
  Task.pause (o.duration k)
  Task.note 0 (.handled "operation" k (o.result k))
  return o.result k

/-- Whether an attempt succeeds. -/
def succeeds (o : Operation) (k : Nat) : Bool := (o.result k).isOk

theorem succeeds_iff (o : Operation) (k : Nat) : o.succeeds k = true ↔ o.result k = .ok () := by
  unfold succeeds
  cases o.result k <;> simp [Except.isOk, Except.toBool]

/-- The last attempt made from number `k` on, with so many more in hand, if nothing is tried again
where the wait is cut short. -/
def lastFrom (o : Operation) (cut : Nat → Bool) : (more k : Nat) → Nat
  | 0, k => k
  | more + 1, k => if o.succeeds k || cut k then k else o.lastFrom cut more (k + 1)

theorem isLeast_lastFrom (o : Operation) (cut : Nat → Bool) (more k : Nat) :
    IsLeast {j | k ≤ j ∧ (j = k + more ∨ o.succeeds j = true ∨ cut j = true)}
      (o.lastFrom cut more k) := by
  induction more generalizing k with
  | zero => exact ⟨⟨Nat.le_refl k, .inl rfl⟩, fun j hj => hj.1⟩
  | succ more ih =>
    rw [lastFrom]
    split
    · next hstop => exact ⟨⟨Nat.le_refl k, .inr (by simpa using hstop)⟩, fun j hj => hj.1⟩
    · next hgo =>
      obtain ⟨⟨hle, hlast⟩, hleast⟩ := ih (k + 1)
      refine ⟨⟨by omega, hlast.imp_left fun h => by omega⟩, ?_⟩
      rintro j ⟨hj, hstop⟩
      -- the first attempt is none at which anything stops
      have hne : j ≠ k := by
        rintro rfl
        rcases hstop with h | h
        · omega
        · exact hgo (by simpa using h)
      exact hleast ⟨by omega, hstop.imp_left fun h => by omega⟩

end Operation

namespace RetryPolicy

variable (p : RetryPolicy) (timer : Nat → Nat) (o : Operation) (start : Nat)

/-- How many milliseconds go by after the failure of an attempt: what the timer takes for the delay
of the policy. -/
def wait (k : Nat) : Nat := timer (p.delayAfter k).ceilMillis

/-- When an attempt begins, counted from one, if nothing is cut short: the first one at the start,
and each other one after the wait for the one before it. -/
def begins : Nat → Nat
  | 0 => start
  | k + 1 => if k = 0 then start else begins k + o.duration k + p.wait timer k

/-- When an attempt ends. -/
def ends (k : Nat) : Nat := p.begins timer o start k + o.duration k

/-- What an attempt leaves in the journal. -/
def entries (k : Nat) : List Entry :=
  [⟨p.begins timer o start k, 0, .attempted k⟩,
    ⟨p.ends timer o start k, 0, .handled "operation" k (o.result k)⟩]

/-- Whether the wait after an attempt is cut short by a cancellation, if there is one. -/
def isCut (cancelledAt : Option Nat) (k : Nat) : Bool :=
  match cancelledAt with
  | none => false
  | some c => c ≤ p.ends timer o start k || c < p.begins timer o start (k + 1)

/-- When the run is over whose last attempt is number `k`: at its end, or at the cancellation if
another attempt would have followed. -/
def returns (cancelledAt : Option Nat) (isLast : Bool) (k : Nat) : Nat :=
  if isLast then p.ends timer o start k else max (cancelledAt.getD 0) (p.ends timer o start k)

variable {p timer o start} {k : Nat}

theorem begins_succ (hk : 1 ≤ k) :
    p.begins timer o start (k + 1) = p.ends timer o start k + p.wait timer k := by
  rw [begins, if_neg (by omega), ends]

variable (p timer o start) in
theorem ends_le_begins (hk : 1 ≤ k) : p.ends timer o start k ≤ p.begins timer o start (k + 1) := by
  rw [begins_succ hk]
  exact Nat.le_add_right _ _

variable (p timer o start) in
theorem begins_mono (hk : 1 ≤ k) {j : Nat} (hj : k ≤ j) :
    p.begins timer o start k ≤ p.begins timer o start j := by
  induction j, hj using Nat.le_induction with
  | base => exact Nat.le_refl _
  | succ j hj ih =>
    have hend := ends_le_begins p timer o start (Nat.le_trans hk hj)
    have hbegin : p.begins timer o start j ≤ p.ends timer o start j := Nat.le_add_right _ _
    omega

theorem isCut_some (c : Nat) :
    p.isCut timer o start (some c) k = true ↔
      c ≤ p.ends timer o start k ∨ c < p.begins timer o start (k + 1) := by
  simp [isCut]

/-! ## One attempt, and the wait after it -/

variable {w : Situation} {s : Scene} {cancelledAt : Option Nat}

/-- The scene an attempt leaves. -/
theorem run_attempt (hnow : s.now = p.begins timer o start k) :
    ∃ s', (o.attempt k).run w s = (o.result k, s') ∧ s'.now = p.ends timer o start k ∧
      s'.timer = s.timer ∧ s'.tokens = s.tokens ∧
      s'.journal = s.journal ++ p.entries timer o start k := by
  refine ⟨_, rfl, ?_, rfl, rfl, ?_⟩
  · exact congrArg (· + o.duration k) hnow
  · have hend : s.now + o.duration k = p.ends timer o start k := congrArg (· + o.duration k) hnow
    rw [entries, ← hnow, ← hend]
    exact List.append_assoc _ _ _

/-- A wait is cut short by a cancellation that has come, or that comes before its end. -/
theorem run_backoff (millis : Nat) (hcancel : s.tokens.cancelTime? w.token = cancelledAt) :
    ∃ wake s', (Task.backoff millis).run w s = (wake, s') ∧ s'.timer = s.timer ∧
      s'.tokens = s.tokens ∧ s'.journal = s.journal ∧
      match wake with
      | .cancelled _ => ∃ c, cancelledAt = some c ∧ (c ≤ s.now ∨ c < s.now + millis) ∧
          s'.now = max c s.now
      | .elapsed => (∀ c, cancelledAt = some c → ¬ (c ≤ s.now ∨ c < s.now + millis)) ∧
          s'.now = s.now + millis := by
  rw [show (Task.backoff millis).run w s = s.reply w (.backoff millis) from
    Task.run_query w (.backoff millis) s]
  unfold Scene.reply Scene.cutShort?
  rw [hcancel]
  cases cancelledAt with
  | none => exact ⟨_, _, rfl, rfl, rfl, rfl, nofun, rfl⟩
  | some c =>
    dsimp only
    split_ifs with hpast hsoon
    · exact ⟨_, _, rfl, rfl, rfl, rfl, c, rfl, .inl hpast, (Nat.max_eq_right hpast).symm⟩
    · refine ⟨_, _, rfl, rfl, rfl, rfl, c, rfl, .inr hsoon, ?_⟩
      rw [Nat.max_eq_left (by omega)]
      exact Nat.add_sub_cancel' (by omega)
    · refine ⟨_, _, rfl, rfl, rfl, rfl, ?_, rfl⟩
      rintro _ ⟨⟩
      exact not_or.2 ⟨hpast, hsoon⟩

/-- The wait after an attempt is cut short or goes by. -/
theorem run_wait (hk : 1 ≤ k) (hnow : s.now = p.ends timer o start k)
    (hcancel : s.tokens.cancelTime? w.token = cancelledAt) :
    ∃ wake s', (Task.backoff (p.wait timer k)).run w s = (wake, s') ∧ s'.timer = s.timer ∧
      s'.tokens = s.tokens ∧ s'.journal = s.journal ∧
      match wake with
      | .cancelled _ => p.isCut timer o start cancelledAt k = true ∧
          s'.now = max (cancelledAt.getD 0) (p.ends timer o start k)
      | .elapsed => p.isCut timer o start cancelledAt k = false ∧
          s'.now = p.begins timer o start (k + 1) := by
  obtain ⟨wake, s', hrun, htimer, htokens, hjournal, hwake⟩ := run_backoff (p.wait timer k) hcancel
  refine ⟨wake, s', hrun, htimer, htokens, hjournal, ?_⟩
  rw [hnow, ← begins_succ hk] at hwake
  cases wake with
  | cancelled d =>
    obtain ⟨c, rfl, hcut, htime⟩ := hwake
    exact ⟨(isCut_some c).2 hcut, htime⟩
  | elapsed =>
    refine ⟨?_, hwake.2⟩
    cases cancelledAt with
    | none => rfl
    | some c =>
      rw [← Bool.not_eq_true, isCut_some]
      exact hwake.1 c rfl

/-- What follows a failed attempt if there are more in hand. -/
theorem run_attemptFrom_error {op : Nat → Task Outcome} {more : Nat} {e : BusError} {s' : Scene}
    (h : (op k).run w s = (.error e, s')) (htimer : s'.timer = timer) :
    (p.attemptFrom op (more + 1) k).run w s =
      match (Task.backoff (p.wait timer k)).run w (s'.log (retryLog e k (p.delayAfter k))) with
      | (.cancelled _, s'') => (.error e, s'')
      | (.elapsed, s'') => (p.attemptFrom op more (k + 1)).run w s'' := by
  rw [attemptFrom, Task.run_bind, h]
  subst htimer
  change Task.run w (Task.backoff (p.wait s'.timer k) >>= fun wake => match wake with
    | .cancelled _ => pure (.error e)
    | .elapsed => p.attemptFrom op more (k + 1)) (s'.log (retryLog e k (p.delayAfter k))) = _
  rw [Task.run_bind]
  rcases (Task.backoff (p.wait s'.timer k)).run w _ with ⟨_ | _, s''⟩ <;> rfl

/-! ## The whole run -/

/-- What comes of a run from attempt number `k` on whose last attempt is `n`. -/
structure Made (p : RetryPolicy) (timer : Nat → Nat) (o : Operation) (start : Nat) (s : Scene)
    (k n time : Nat) (ran : Outcome × Scene) : Prop where
  result : ran.1 = o.result n
  /-- When the result is there. -/
  returned : ran.2.now = time
  /-- The attempts that were made, one after the other. -/
  journal :
    ran.2.journal = s.journal ++ (List.range' k (n + 1 - k)).flatMap (p.entries timer o start)

theorem Made.one {ran : Outcome × Scene} {time : Nat} (hresult : ran.1 = o.result k)
    (hreturned : ran.2.now = time)
    (hjournal : ran.2.journal = s.journal ++ p.entries timer o start k) :
    Made p timer o start s k k time ran where
  result := hresult
  returned := hreturned
  journal := by
    rw [hjournal, Nat.add_sub_cancel_left]
    simp

/-- One attempt, and then the others. -/
theorem Made.cons {ran : Outcome × Scene} {s' : Scene} {n time : Nat} (hn : k + 1 ≤ n)
    (h : Made p timer o start s' (k + 1) n time ran)
    (hjournal : s'.journal = s.journal ++ p.entries timer o start k) :
    Made p timer o start s k n time ran where
  result := h.result
  returned := h.returned
  journal := by
    have hcount : n + 1 - k = (n + 1 - (k + 1)) + 1 := by omega
    rw [h.journal, hjournal, hcount, List.range'_succ, List.flatMap_cons, List.append_assoc]

theorem made_attemptFrom {more n : Nat} (hk : 1 ≤ k) (hnow : s.now = p.begins timer o start k)
    (htimer : s.timer = timer) (hcancel : s.tokens.cancelTime? w.token = cancelledAt)
    (hn : o.lastFrom (p.isCut timer o start cancelledAt) more k = n) :
    Made p timer o start s k n
      (p.returns timer o start cancelledAt (n == k + more || o.succeeds n) n)
      ((p.attemptFrom o.attempt more k).run w s) := by
  induction more generalizing k s with
  | zero =>
    obtain ⟨s', hrun, hend, -, -, hjournal⟩ := run_attempt (w := w) hnow
    rw [Operation.lastFrom] at hn
    subst hn
    rw [attemptFrom, hrun]
    refine .one rfl (hend.trans ?_) hjournal
    simp [returns]
  | succ more ih =>
    obtain ⟨s', hrun, hend, htimer', htokens, hjournal⟩ := run_attempt (w := w) hnow
    rw [Operation.lastFrom] at hn
    cases hresult : o.result k with
    | ok u =>
      have hsucceeds : o.succeeds k = true := by rw [Operation.succeeds, hresult]; rfl
      rw [hsucceeds, Bool.true_or, if_pos rfl] at hn
      subst hn
      rw [attemptFrom, Task.run_bind, hrun, hresult]
      refine .one hresult.symm (hend.trans ?_) hjournal
      simp [returns, hsucceeds]
    | error e =>
      have hfails : o.succeeds k = false := by rw [Operation.succeeds, hresult]; rfl
      rw [hfails, Bool.false_or] at hn
      rw [hresult] at hrun
      rw [run_attemptFrom_error hrun (htimer'.trans htimer)]
      -- the line that is logged leaves the clock, the timer, the tokens and the journal alone
      generalize hs₁ : s'.log (retryLog e k (p.delayAfter k)) = s₁
      obtain ⟨hend₁, htimer₁, htokens₁, hjournal₁⟩ :
          s₁.now = p.ends timer o start k ∧ s₁.timer = timer ∧ s₁.tokens = s.tokens ∧
            s₁.journal = s.journal ++ p.entries timer o start k := by
        rw [← hs₁]
        exact ⟨hend, htimer'.trans htimer, htokens, hjournal⟩
      obtain ⟨wake, s₂, hwait, htimer₂, htokens₂, hjournal₂, hwake⟩ :=
        run_wait (w := w) hk hend₁ (htokens₁ ▸ hcancel)
      rw [hwait]
      cases wake with
      | cancelled d =>
        rw [if_pos hwake.1] at hn
        subst hn
        have hmore : (k == k + (more + 1)) = false := by simp
        refine .one hresult.symm (hwake.2.trans ?_) (hjournal₂.trans hjournal₁)
        rw [returns, hmore, hfails]
        rfl
      | elapsed =>
        rw [if_neg (by simp [hwake.1])] at hn
        have hcancel₂ : s₂.tokens.cancelTime? w.token = cancelledAt := by
          rw [htokens₂, htokens₁, hcancel]
        have hrest := ih (Nat.le_add_left 1 k) hwake.2 (htimer₂.trans htimer₁) hcancel₂ hn
        have hle : k + 1 ≤ n := hn ▸ (o.isLeast_lastFrom _ more (k + 1)).1.1
        rw [show k + 1 + more = k + (more + 1) by omega] at hrest
        exact hrest.cons hle (hjournal₂.trans hjournal₁)

/-! ## Which attempts are made -/

/-- The last attempt of a run that is cancelled is the last one that begins before that. -/
theorem isGreatest_of_isLeast {more m n c : Nat}
    (hm : IsLeast {j | 1 ≤ j ∧ (j = 1 + more ∨ o.succeeds j = true)} m)
    (hn : IsLeast {j | 1 ≤ j ∧
      (j = 1 + more ∨ o.succeeds j = true ∨ p.isCut timer o start (some c) j = true)} n)
    (htie : ∀ k, 1 < k → k ≤ m → p.begins timer o start k ≠ c) :
    IsGreatest {k | 1 ≤ k ∧ k ≤ m ∧ (k = 1 ∨ p.begins timer o start k < c)} n := by
  have hle : n ≤ m := hn.2 ⟨hm.1.1, hm.1.2.imp_right .inl⟩
  refine ⟨⟨hn.1.1, hle, ?_⟩, ?_⟩
  · -- the wait before the last attempt was not cut short
    rcases Nat.eq_or_lt_of_le hn.1.1 with hone | hone
    · exact .inl hone.symm
    · right
      obtain ⟨j, rfl⟩ : ∃ j, n = j + 1 := ⟨n - 1, by omega⟩
      have hne := htie (j + 1) hone hle
      by_contra hnot
      have hmem := hn.2 ⟨by omega, .inr (.inr ((isCut_some (k := j) c).2 (.inr (by omega))))⟩
      omega
  · rintro k ⟨hk, hkm, hbegin⟩
    by_contra hlt
    have hnk : n + 1 ≤ k := by omega
    have hkc : p.begins timer o start k < c := hbegin.resolve_left (by have := hn.1.1; omega)
    -- neither the attempts were used up nor was there a success, so the wait was cut short
    have hstop : p.isCut timer o start (some c) n = true := by
      rcases hn.1.2 with h | h | h
      · have := hm.2 ⟨hn.1.1, .inl h⟩
        omega
      · have := hm.2 ⟨hn.1.1, .inr h⟩
        omega
      · exact h
    have hnext := begins_mono p timer o start (Nat.le_add_left 1 n) hnk
    have hend := ends_le_begins p timer o start hn.1.1
    rcases (isCut_some c).1 hstop with h | h <;> omega

/-- When a run under a policy of so many attempts makes which attempts, and what comes of it; left
to itself its last attempt is number `m`. The waits are what the timer takes for the delays. -/
structure ScheduleLaw (attempts : UInt32) (delay : Duration) (o : Operation) (w : Situation)
    (s : Scene) (m : Nat) : Prop where
  /-- The attempts go on until one succeeds or they are used up. -/
  last : IsLeast {k | 1 ≤ k ∧ (k = max attempts.toNat 1 ∨ o.result k = .ok ())} m
  /-- The number of an attempt is one of 32 bits. -/
  bounded : m < UInt32.size
  /-- An attempt begins after the wait for the one before it. -/
  apart (k : Nat) (hk : 1 ≤ k) :
    (ofAttempts attempts delay).begins s.timer o s.now (k + 1) =
      (ofAttempts attempts delay).ends s.timer o s.now k +
        (ofAttempts attempts delay).wait s.timer k
  /-- A wait is the delay of the policy, rounded up to a millisecond, where the timer takes just as
  long for it. -/
  rounded (k : Nat)
      (h : s.timer ((ofAttempts attempts delay).delayAfter k).ceilMillis =
        ((ofAttempts attempts delay).delayAfter k).ceilMillis) :
    ((ofAttempts attempts delay).delayAfter k).toNanos ≤
        (ofAttempts attempts delay).wait s.timer k * 1000000 ∧
      (ofAttempts attempts delay).wait s.timer k * 1000000 <
        ((ofAttempts attempts delay).delayAfter k).toNanos + 1000000
  /-- Without a cancellation all attempts are made, and the result is there when the last one
  ends. -/
  uncancelled (h : s.tokens.cancelTime? w.token = none) :
    Made (ofAttempts attempts delay) s.timer o s.now s 1 m
      ((ofAttempts attempts delay).ends s.timer o s.now m)
      (((ofAttempts attempts delay).run o.attempt).run w s)
  /-- With a cancellation, at a time that is not the end of a wait, the first attempt and those that
  begin before it are made; if there would have been more, the result is there once the last one
  has ended and the cancellation has come. -/
  cancelled {c : Nat} (h : s.tokens.cancelTime? w.token = some c)
      (htie : ∀ k, 1 < k → k ≤ m → (ofAttempts attempts delay).begins s.timer o s.now k ≠ c) :
    ∃ n, IsGreatest {k | 1 ≤ k ∧ k ≤ m ∧
        (k = 1 ∨ (ofAttempts attempts delay).begins s.timer o s.now k < c)} n ∧
      Made (ofAttempts attempts delay) s.timer o s.now s 1 n
        (if n = m then (ofAttempts attempts delay).ends s.timer o s.now m
          else max c ((ofAttempts attempts delay).ends s.timer o s.now n))
        (((ofAttempts attempts delay).run o.attempt).run w s)

theorem schedule_law (attempts : UInt32) (delay : Duration) (o : Operation) (w : Situation)
    (s : Scene) : ∃ m, ScheduleLaw attempts delay o w s m := by
  obtain ⟨p, hp⟩ : ∃ p, ofAttempts attempts delay = p := ⟨_, rfl⟩
  have hmore : 1 + (p.attempts - 1) = p.attempts := by have := p.one_le; omega
  have hattempts : p.attempts = max attempts.toNat 1 := hp ▸ rfl
  have hm : IsLeast {j | 1 ≤ j ∧ (j = 1 + (p.attempts - 1) ∨ o.succeeds j = true)}
      (o.lastFrom (p.isCut s.timer o s.now none) (p.attempts - 1) 1) := by
    simpa [isCut] using o.isLeast_lastFrom (p.isCut s.timer o s.now none) (p.attempts - 1) 1
  obtain ⟨m, hstops⟩ : ∃ m, o.lastFrom (p.isCut s.timer o s.now none) (p.attempts - 1) 1 = m :=
    ⟨_, rfl⟩
  rw [hstops] at hm
  -- up to there, an attempt is the last one in hand or a success exactly if it is number `m`
  have hlast (n : Nat) (hn : 1 ≤ n) (hle : n ≤ m) :
      (n == 1 + (p.attempts - 1) || o.succeeds n) = decide (n = m) := by
    rw [Bool.eq_iff_iff, Bool.or_eq_true, beq_iff_eq, decide_eq_true_iff]
    exact ⟨fun h => Nat.le_antisymm hle (hm.2 ⟨hn, h⟩), fun h => h ▸ hm.1.2⟩
  refine ⟨m, ?last, ?bounded, ?apart, ?rounded, ?uncancelled, ?cancelled⟩
  case last =>
    rw [← hattempts, ← hmore]
    simpa only [Operation.succeeds_iff] using hm
  case bounded =>
    have hle : m ≤ 1 + (p.attempts - 1) := hm.2 ⟨by omega, .inl rfl⟩
    have hlt := p.attempts_lt
    omega
  case apart => exact fun k hk => begins_succ hk
  case rounded =>
    intro k h
    have hwait : (ofAttempts attempts delay).wait s.timer k =
        ((ofAttempts attempts delay).delayAfter k).ceilMillis := h
    rw [hwait, Duration.ceilMillis]
    omega
  case uncancelled =>
    intro h
    rw [hp]
    have hmade := made_attemptFrom (p := p) (Nat.le_refl 1) rfl rfl h hstops
    rwa [hlast m hm.1.1 (Nat.le_refl m), decide_eq_true rfl, returns, if_pos rfl] at hmade
  case cancelled =>
    intro c h htie
    rw [hp] at htie ⊢
    obtain ⟨n, hn⟩ : ∃ n, o.lastFrom (p.isCut s.timer o s.now (some c)) (p.attempts - 1) 1 = n :=
      ⟨_, rfl⟩
    have hgreatest := isGreatest_of_isLeast hm
      (hn ▸ o.isLeast_lastFrom (p.isCut s.timer o s.now (some c)) (p.attempts - 1) 1) htie
    have hmade := made_attemptFrom (p := p) (Nat.le_refl 1) rfl rfl h hn
    rw [hlast n hgreatest.1.1 hgreatest.1.2.1, returns] at hmade
    refine ⟨n, hgreatest, ?_⟩
    by_cases hnm : n = m
    · rw [decide_eq_true hnm, if_pos rfl] at hmade
      rw [if_pos hnm, ← hnm]
      exact hmade
    · rw [decide_eq_false hnm, if_neg Bool.false_ne_true] at hmade
      rw [if_neg hnm]
      exact hmade

end RetryPolicy

end MessageBus
