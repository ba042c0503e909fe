import MessageBus.Proofs.Task.Course
import MessageBus.Retry.Run

/-!
# Attempts

A run under a retry policy is a series of attempts, each a course of its own of the operation that
is retried, with a line of the log and a wait between two of them (`course_run`).
-/

set_option autoImplicit false

namespace MessageBus.RetryPolicy

/-- One attempt at an operation. -/
structure Attempt where
  turns : List Turn
  result : Outcome

/-- What is asked after an attempt that has failed, if there are more in hand; the timer takes so
many milliseconds for the wait. -/
def turnsAfter (p : RetryPolicy) (attempt : Nat) (e : BusError) (millis : Nat) : List Turn :=
  [⟨.log (retryLog e attempt (p.delayAfter attempt)), ()⟩,
    ⟨.timer (p.delayAfter attempt).ceilMillis, millis⟩]

/-- The same with the wait. -/
def turnsBetween (p : RetryPolicy) (attempt : Nat) (e : BusError) (millis : Nat) (wake : Wake) :
    List Turn :=
  p.turnsAfter attempt e millis ++ [⟨.backoff millis, wake⟩]

/-- The attempts from number `attempt` on, with so many more in hand: what all of them ask, and what
comes of it. -/
inductive Tried (p : RetryPolicy) (op : Nat → Task Outcome) :
    (more attempt : Nat) → List Attempt → List Turn → Outcome → Prop where
  | last {attempt : Nat} {es : List Turn} {result : Outcome}
      (h : (op attempt).Course es result) :
      Tried p op 0 attempt [⟨es, result⟩] es result
  | succeeds {more attempt : Nat} {es : List Turn} (h : (op attempt).Course es (.ok ())) :
      Tried p op (more + 1) attempt [⟨es, .ok ()⟩] es (.ok ())
  /-- The wait after a failure is cut short. -/
  | stops {more attempt : Nat} {es : List Turn} {e : BusError} {millis after : Nat}
      (h : (op attempt).Course es (.error e)) :
      Tried p op (more + 1) attempt [⟨es, .error e⟩]
        (es ++ p.turnsBetween attempt e millis (.cancelled after)) (.error e)
  | again {more attempt : Nat} {es es' : List Turn} {e : BusError} {millis : Nat}
      {attempts : List Attempt} {result : Outcome} (h : (op attempt).Course es (.error e))
      (hrest : Tried p op more (attempt + 1) attempts es' result) :
      Tried p op (more + 1) attempt (⟨es, .error e⟩ :: attempts)
        (es ++ p.turnsBetween attempt e millis .elapsed ++ es') result

variable {p : RetryPolicy} {op : Nat → Task Outcome} {more attempt : Nat} {es : List Turn}
  {result : Outcome} {attempts : List Attempt}

theorem course_attemptFrom (p : RetryPolicy) (op : Nat → Task Outcome) (more attempt : Nat)
    (es : List Turn) (result : Outcome) :
    (p.attemptFrom op more attempt).Course es result ↔
      ∃ attempts, Tried p op more attempt attempts es result := by
  induction more generalizing attempt es result with
  | zero =>
    constructor
    · intro h
      exact ⟨_, .last h⟩
    · rintro ⟨attempts, h⟩
      cases h with
      | last h => exact h
  | succ more ih =>
    rw [attemptFrom, Task.course_bind]
    constructor
    · rintro ⟨es₁, r, es₂, rfl, hop, hrest⟩
      cases r with
      | ok _ =>
        obtain ⟨rfl, rfl⟩ := hrest
        exact ⟨_, by simpa using .succeeds hop⟩
      | error e =>
        obtain ⟨⟨⟩, es₃, rfl, millis, es₄, rfl, wake, es₅, rfl, hwake⟩ := hrest
        cases wake with
        | cancelled after =>
          obtain ⟨rfl, rfl⟩ := hwake
          exact ⟨_, .stops hop⟩
        | elapsed =>
          obtain ⟨attempts, htried⟩ := (ih _ _ _).1 hwake
          exact ⟨_, by simpa [turnsBetween, turnsAfter] using Tried.again hop htried⟩
    · rintro ⟨attempts, h⟩
      cases h with
      | @succeeds _ _ _ hop => exact ⟨es, _, [], by simp, hop, rfl, rfl⟩
      | stops hop => exact ⟨_, _, _, rfl, hop, _, _, rfl, _, _, rfl, _, _, rfl, rfl, rfl⟩
      | @again _ _ es₁ es₂ e millis _ _ hop hrest =>
        refine ⟨es₁, _, p.turnsBetween attempt e millis .elapsed ++ es₂, by simp, hop, ?_⟩
        exact ⟨_, _, rfl, _, _, rfl, _, _, rfl, (ih _ _ _).2 ⟨_, hrest⟩⟩

/-- The courses of a run are its series of attempts. -/
theorem course_run (p : RetryPolicy) (op : Nat → Task Outcome) (es : List Turn)
    (result : Outcome) :
    (p.run op).Course es result ↔ ∃ attempts, Tried p op (p.attempts - 1) 1 attempts es result :=
  course_attemptFrom p op _ 1 es result

/-- Each attempt is a course of the operation with the number of the attempt. -/
theorem Tried.course (h : Tried p op more attempt attempts es result) :
    ∀ i a, attempts[i]? = some a → (op (attempt + i)).Course a.turns a.result := by
  induction h with
  | last h | succeeds h | stops h =>
    rintro (_ | i) a ha
    · obtain rfl := Option.some.inj ha
      exact h
    · simp at ha
  | @again more attempt es es' e millis attempts result h hrest ih =>
    rintro (_ | i) a ha
    · obtain rfl := Option.some.inj ha
      exact h
    · rw [← Nat.add_assoc, Nat.add_right_comm]
      exact ih i a ha

end MessageBus.RetryPolicy
