import MessageBus.Handler

/-!
# Scripted collaborators

Handlers and behaviors described by data: what they wait for, what they answer, and what they write
to the journal. They stand for the code an application plugs into the bus.
-/

set_option autoImplicit false

namespace MessageBus

/-- One call of a scripted handler: it waits, may cancel the token, and fails or succeeds. -/
structure ScriptStep where
  sleep : Option Nat := none
  cancels : Bool := false
  error : Option BusError := none
deriving DecidableEq, Inhabited

namespace ScriptStep

/-- The outcome of a step. -/
def outcome (s : ScriptStep) : Outcome :=
  match s.error with
  | none => .ok ()
  | some e => .error e

/-- The work of a step. -/
def run (s : ScriptStep) : Task Outcome := do
  if let some ms := s.sleep then Task.rest ms
  if s.cancels then Task.cancel
  return s.outcome

theorem unreserved_run (s : ScriptStep) : s.run.Unreserved fun _ => True := by
  unfold run
  cases s.sleep <;> cases s.cancels
  · trivial
  · exact ⟨rfl, fun _ => trivial⟩
  · exact ⟨rfl, fun _ => ⟨rfl, fun _ => trivial⟩⟩
  · exact ⟨rfl, fun _ => ⟨rfl, fun _ => ⟨rfl, fun _ => trivial⟩⟩⟩

/-- The step of the `k`-th call, counted from one: the last one repeats, and an empty script
succeeds. -/
def atCall (script : List ScriptStep) (k : Nat) : ScriptStep :=
  (script[k - 1]?).getD (script.getLastD {})

/-- An operation that follows a script, attempt by attempt. -/
def operation (script : List ScriptStep) (n : Nat) : Task Outcome := do
  Task.note 0 (.attempted n)
  (atCall script n).run

end ScriptStep

/-- A handler that follows a script, with scripts of their own for some deliveries. -/
structure ScriptedHandler where
  /-- What tells this handler from others of its name. -/
  counter : Nat
  name : String
  script : List ScriptStep := []
  byTag : List (UInt64 × List ScriptStep) := []
  showsReceived : Bool := false
  showsContext : Bool := false
deriving Inhabited

/-- What a scripted handler does: calls are counted for each delivery. -/
def ScriptedHandler.handler (h : ScriptedHandler) : Handler where
  work context received := do
    let call ← Task.count h.counter received.tag
    Task.note received.tag (.entered h.name call
      (if h.showsReceived then some received else none)
      (if h.showsContext then some context else none))
    let script := (h.byTag.lookup received.tag).getD h.script
    let result ← (ScriptStep.atCall script call).run
    Task.note received.tag (.handled h.name call result)
    return result
  unreserved context received := by
    refine ⟨rfl, fun call => ⟨rfl, fun _ => ?_⟩⟩
    exact (Task.unreserved_bind (ScriptStep.run _) _ _).2
      ((ScriptStep.unreserved_run _).mono fun _ _ => ⟨rfl, fun _ => trivial⟩)

/-- What a scripted behavior does with the work inside. -/
inductive BehaviorMode where
  /-- Gives its result on. -/
  | pass
  /-- Succeeds without it. -/
  | shortOk
  /-- Fails without it. -/
  | shortError
  /-- Does it outside of any span. -/
  | freshContext
  /-- Succeeds whatever its result. -/
  | swallow
  /-- Fails whatever its result, with its error if it has one. -/
  | failAfter
  /-- Puts another error in place of its error. -/
  | replaceError
deriving DecidableEq, Inhabited, Repr

/-- A behavior that follows a script. -/
structure ScriptedBehavior where
  name : String
  mode : BehaviorMode := .pass
  error : BusError := .internal
  sleep : Option Nat := none
deriving Inhabited

namespace ScriptedBehavior

/-- The answer to the result of the work inside. -/
def reply (b : ScriptedBehavior) (result : Outcome) : Outcome :=
  match b.mode, result with
  | .swallow, _ => .ok ()
  | .failAfter, .ok _ => .error b.error
  | .replaceError, .error _ => .error b.error
  | _, result => result

/-- What a scripted behavior makes of the result of the work inside. -/
def after (b : ScriptedBehavior) (received : Received) (result : Outcome) : Task Outcome := do
  Task.note received.tag (.after b.name result)
  return b.reply result

/-- What a scripted behavior decides. -/
def decision (b : ScriptedBehavior) (context : TraceContext) (received : Received) : Decision :=
  match b.mode with
  | .shortOk => .answer (.ok ())
  | .shortError => .answer (.error b.error)
  | .freshContext => .proceed none (b.after received)
  | _ => .proceed context (b.after received)

theorem unreserved_decision (b : ScriptedBehavior) (context : TraceContext) (received : Received) :
    (b.decision context received).Unreserved := by
  unfold decision
  cases b.mode
  case shortOk | shortError => trivial
  all_goals exact fun _ => ⟨rfl, fun _ => trivial⟩

/-- What a scripted behavior does. -/
def behavior (b : ScriptedBehavior) : Behavior where
  work context received := do
    Task.note received.tag (.before b.name)
    if let some ms := b.sleep then Task.rest ms
    return b.decision context received
  unreserved context received := by
    refine ⟨rfl, fun _ => ?_⟩
    cases b.sleep with
    | none => exact b.unreserved_decision context received
    | some _ => exact ⟨rfl, fun _ => ⟨rfl, fun _ => b.unreserved_decision context received⟩⟩

end ScriptedBehavior

end MessageBus
