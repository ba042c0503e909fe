import MessageBus.Duration

/-!
# Retry policies

How often a handler is tried, and how long to wait between two attempts: the wait doubles after each
failure, up to the largest factor that 32 bits hold, and saturates at the longest duration.
-/

set_option autoImplicit false

namespace MessageBus

/-- A policy: the number of attempts, at least one, and the wait after the first failure. -/
structure RetryPolicy where
  attempts : Nat
  delay : Duration
  one_le : 1 ≤ attempts := by decide
  attempts_lt : attempts < UInt32.size := by decide
deriving DecidableEq

namespace RetryPolicy

/-- Three attempts, the second one after 300 ms. -/
def standard : RetryPolicy := { attempts := 3, delay := .ofMillis 300 }

instance : Inhabited RetryPolicy := ⟨standard⟩

/-- A policy of so many attempts; none counts as one. -/
def ofAttempts (attempts : UInt32) (delay : Duration) : RetryPolicy where
  attempts := max attempts.toNat 1
  delay
  one_le := Nat.le_max_right _ _
  attempts_lt := Nat.max_lt.2 ⟨attempts.toNat_lt, by decide⟩

/-- One attempt. -/
def once : RetryPolicy := ofAttempts 1 .zero

/-- By how much the delay is multiplied after the `attempt`-th failure: twice as much each time, and
never more than 32 bits hold. -/
def factor (attempt : Nat) : Nat :=
  if attempt - 1 < 32 then 1 <<< (attempt - 1) else UInt32.size - 1

/-- The wait after the `attempt`-th failure, counted from one. -/
def delayAfter (p : RetryPolicy) (attempt : Nat) : Duration :=
  p.delay.saturatingMul (factor attempt)

end RetryPolicy

end MessageBus
