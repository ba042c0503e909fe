import MessageBus.Handler

/-!
# Behaviors as programs

A behavior is written as a program that is given a continuation: it asks its surroundings, calls the
continuation with a context and goes on with the result, and ends. A program that calls its
continuation at most once can be taken apart at the call. So it is a `Behavior`, and putting that
around a handler is running the program with the handler as its continuation (`wrap_behavior`).
-/

set_option autoImplicit false

namespace MessageBus

/-- A program with a continuation. -/
inductive Program where
  | done (result : Outcome)
  | ask (q : Query) (rest : q.Answer → Program)
  /-- The continuation is called under a context, and gives a result. -/
  | call (context : TraceContext) (rest : Outcome → Program)

namespace Program

/-- The program never calls its continuation. -/
def NeverCalls : Program → Prop
  | done _ => True
  | ask _ rest => ∀ x, (rest x).NeverCalls
  | call _ _ => False

/-- The program calls its continuation at most once, whatever it is answered. -/
def CallsOnce : Program → Prop
  | done _ => True
  | ask _ rest => ∀ x, (rest x).CallsOnce
  | call _ rest => ∀ result, (rest result).NeverCalls

/-- The program asks nothing reserved. -/
def Unreserved : Program → Prop
  | done _ => True
  | ask q rest => q.isReserved = false ∧ ∀ x, (rest x).Unreserved
  | call _ rest => ∀ result, (rest result).Unreserved

/-- Runs a program with a continuation. -/
def run (next : TraceContext → Task Outcome) : Program → Task Outcome
  | done result => .done result
  | ask q rest => .ask q fun x => (rest x).run next
  | call context rest => next context >>= fun result => (rest result).run next

/-- A program up to its first call; what comes after the call has no continuation any more. -/
def decide : Program → Task Decision
  | done result => .done (.answer result)
  | ask q rest => .ask q fun x => (rest x).decide
  | call context rest =>
    .done (.proceed context fun result => (rest result).run fun _ => .done (.ok ()))

/-- A program that never calls its continuation does the same with any other. -/
theorem run_of_neverCalls {p : Program} (h : p.NeverCalls)
    (next next' : TraceContext → Task Outcome) : p.run next = p.run next' := by
  induction p with
  | done result => rfl
  | ask q rest ih =>
    have hrest : (fun x => (rest x).run next) = fun x => (rest x).run next' :=
      funext fun x => ih x (h x)
    rw [run, run, hrest]
  | call context rest => exact h.elim

/-- A program is run up to the call, then its continuation, then what comes after the call. -/
theorem run_eq_decide {p : Program} (h : p.CallsOnce) (next : TraceContext → Task Outcome) :
    p.run next = p.decide >>= fun d =>
      match d with
      | .answer result => return result
      | .proceed context after => next context >>= after := by
  induction p with
  | done result => rfl
  | ask q rest ih =>
    rw [run, decide, Task.ask_bind]
    have hrest := funext fun x => ih x (h x)
    rw [hrest]
  | call context rest =>
    have hrest : (fun result => (rest result).run next) =
        fun result => (rest result).run fun _ => .done (.ok ()) :=
      funext fun result => run_of_neverCalls (h result) _ _
    rw [run, hrest]
    rfl

theorem unreserved_run {p : Program} (h : p.Unreserved) (hcalls : p.NeverCalls)
    (next : TraceContext → Task Outcome) : (p.run next).Unreserved fun _ => True := by
  induction p with
  | done result => trivial
  | ask q rest ih => exact ⟨h.1, fun x => ih x (h.2 x) (hcalls x)⟩
  | call context rest => exact hcalls.elim

theorem unreserved_decide {p : Program} (h : p.Unreserved) (hcalls : p.CallsOnce) :
    p.decide.Unreserved Decision.Unreserved := by
  induction p with
  | done result => trivial
  | ask q rest ih => exact ⟨h.1, fun x => ih x (h.2 x) (hcalls x)⟩
  | call context rest => exact fun result => unreserved_run (h result) (hcalls result) _

end Program

/-- A behavior as it is written. -/
structure WrittenBehavior where
  program : TraceContext → Received → Program
  callsOnce : ∀ context received, (program context received).CallsOnce
  unreserved : ∀ context received, (program context received).Unreserved

namespace WrittenBehavior

/-- The behavior that does what is written. -/
def behavior (b : WrittenBehavior) : Behavior where
  work context received := (b.program context received).decide
  unreserved context received :=
    Program.unreserved_decide (b.unreserved context received) (b.callsOnce context received)

/-- A handler with a written behavior around it runs the program, and is its continuation. -/
theorem wrap_behavior (b : WrittenBehavior) (inner : Handler) (context : TraceContext)
    (received : Received) :
    b.behavior.wrap inner context received =
      (b.program context received).run fun context => inner context received :=
  (Program.run_eq_decide (b.callsOnce context received) _).symm

end WrittenBehavior

end MessageBus
