import MessageBus.Retry
import MessageBus.Task

/-!
# Retrying

Running an operation under a retry policy: it is tried again after each failure, with the policy's
waits between attempts, until it succeeds, the attempts are used up, or the token is cancelled
during a wait. The last failure is the result.
-/

set_option autoImplicit false

namespace MessageBus.RetryPolicy

/-- What is logged before the wait after a failure. -/
def retryLog (error : BusError) (attempt : Nat) (delay : Duration) : LogRecord :=
  .warn "retry" "handler failed, retrying"
    [("error", .text error.message), ("attempt", .number attempt),
      ("delay_ms", .number (delay.toMillis % UInt64.size : Nat))]

/-- The attempts from number `attempt` on, with so many more in hand. -/
def attemptFrom (p : RetryPolicy) (op : Nat → Task Outcome) : (more attempt : Nat) → Task Outcome
  | 0, attempt => op attempt
  | more + 1, attempt => do
    match ← op attempt with
    | .ok _ => return .ok ()
    | .error e =>
      let delay := p.delayAfter attempt
      Task.log (retryLog e attempt delay)
      match ← Task.backoff (← Task.timer delay.ceilMillis) with
      | .cancelled _ => return .error e
      | .elapsed => p.attemptFrom op more (attempt + 1)

/-- Runs an operation under the policy; it is given the number of the attempt. -/
def run (p : RetryPolicy) (op : Nat → Task Outcome) : Task Outcome :=
  p.attemptFrom op (p.attempts - 1) 1

end MessageBus.RetryPolicy
