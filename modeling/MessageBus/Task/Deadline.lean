import MessageBus.Task

/-!
# Deadlines

`Task.within` gives a task so many milliseconds. A wait that ends in time goes on; one that would
end later is cut off at the deadline, and the spans the task has opened end there, the last one
first. What becomes ready at the deadline itself is still in time.
-/

set_option autoImplicit false

namespace MessageBus.Task

variable {α : Type}

/-- Ends the spans of work that is abandoned, the last one opened first. -/
def abandon : List SpanContext → Task Unit
  | [] => .done ()
  | c :: rest => .ask (.abandonSpan c) fun _ => abandon rest

/-- What a task does in the milliseconds that are left, with the spans it has opened: its value, or
`none` if time runs out. -/
def cutOff : Task α → (left : Nat) → (opened : List SpanContext) → Task (Option α)
  | .done a, _, _ => .done (some a)
  | .ask q rest, left, opened =>
    match q, rest with
    | .pause ms, rest =>
      if ms ≤ left then .ask (.pause ms) fun _ => cutOff (rest ()) (left - ms) opened
      else .ask (.pause left) fun _ => do
        abandon opened
        return none
    | .backoff ms, rest =>
      .ask (.backoff (min ms left)) fun wake =>
        match wake with
        | .cancelled after => cutOff (rest (.cancelled after)) (left - after) opened
        | .elapsed =>
          if ms ≤ left then cutOff (rest .elapsed) (left - ms) opened
          else do
            abandon opened
            return none
    | .startSpan s, rest => .ask (.startSpan s) fun c => cutOff (rest c) left (c :: opened)
    | .finishSpan c e, rest =>
      .ask (.finishSpan c e) fun _ => cutOff (rest ()) left (opened.filter (· != c))
    | .abandonSpan c, rest =>
      .ask (.abandonSpan c) fun _ => cutOff (rest ()) left (opened.filter (· != c))
    | q, rest => .ask q fun x => cutOff (rest x) left opened

/-- A task with a deadline. -/
def within (left : Nat) (t : Task α) : Task (Option α) := t.cutOff left []

end MessageBus.Task
