import MessageBus.Delivery
import MessageBus.Duration
import MessageBus.Log
import MessageBus.Tracing.Span

/-!
# Tasks

A `Task α` is a piece of work as data: it ends with a value, or asks its surroundings something and
goes on with the answer. Time passes only in the two queries that wait. Handlers, behaviors, retries
and the processing of a delivery are tasks, so what they do is settled before anything runs them.
-/

set_option autoImplicit false

namespace MessageBus

/-- What is written to the journal while deliveries are handled. -/
inductive Occurrence where
  /-- An attempt at an operation that is retried. -/
  | attempted (n : Nat)
  /-- A handler is called for the `call`-th time; it may show what it was given. -/
  | entered (handler : String) (call : Nat) (received : Option Received)
      (context : Option TraceContext)
  /-- A call of a handler has come to its end. -/
  | handled (handler : String) (call : Nat) (result : Outcome)
  /-- A behavior begins its work. -/
  | before (behavior : String)
  /-- A behavior has the result of what it wraps. -/
  | after (behavior : String) (result : Outcome)
  /-- The delivery is settled. -/
  | settled (s : Settlement)
  /-- An observer is told of a message. -/
  | notified (observer : String) (message : Message)
  /-- The bus was stopped in the background. -/
  | stopped (result : Outcome)
deriving Inhabited

/-- How a wait ended that a cancellation can cut short. -/
inductive Wake where
  | elapsed
  /-- Cancelled so many milliseconds after the wait began. -/
  | cancelled (after : Nat)
deriving DecidableEq, Inhabited, Repr

/-- What a task can ask of its surroundings. -/
inductive Query where
  /-- Write to the journal, for the delivery of this tag. -/
  | note (tag : UInt64) (what : Occurrence)
  | log (record : LogRecord)
  /-- The time, in milliseconds. -/
  | clock
  /-- How many milliseconds the timer takes for a wait of so many. -/
  | timer (millis : Nat)
  /-- Wait. -/
  | pause (millis : Nat)
  /-- Wait, unless the token is cancelled. -/
  | backoff (millis : Nat)
  /-- Cancel the token. -/
  | cancel
  /-- How often this has been asked for a counter, this time included. -/
  | count (counter : Nat) (tag : UInt64)
  | startSpan (start : SpanStart)
  | finishSpan (span : SpanContext) (error : Option BusError)
  /-- End a span whose work is abandoned. -/
  | abandonSpan (span : SpanContext)
  /-- Tell the broker what became of the delivery. -/
  | settle (settlement : Settlement)
  /-- The observers that are registered now. -/
  | observers

/-- What a query is answered with. -/
def Query.Answer : Query → Type
  | note _ _ | log _ | pause _ | cancel | finishSpan _ _ | abandonSpan _ => Unit
  | clock | timer _ | count _ _ => Nat
  | backoff _ => Wake
  | startSpan _ => SpanContext
  | settle _ => Outcome
  | observers => List String

/-- A piece of work: it is done, or asks and goes on with the answer. -/
inductive Task (α : Type) where
  | done (a : α)
  | ask (q : Query) (rest : q.Answer → Task α)

namespace Task

variable {α β γ : Type}

instance [Inhabited α] : Inhabited (Task α) := ⟨.done default⟩

/-- One task after the other. -/
def bind : Task α → (α → Task β) → Task β
  | done a, f => f a
  | ask q rest, f => ask q fun x => bind (rest x) f

instance : Monad Task where
  pure := done
  bind := bind

@[simp] theorem pure_eq (a : α) : (pure a : Task α) = done a := rfl

@[simp] theorem done_bind (a : α) (f : α → Task β) : (done a >>= f) = f a := rfl

@[simp] theorem ask_bind (q : Query) (rest : q.Answer → Task α) (f : α → Task β) :
    (ask q rest >>= f) = ask q fun x => rest x >>= f := rfl

theorem bind_done (t : Task α) : (t >>= done) = t := by
  induction t with
  | done a => rfl
  | ask q rest ih => rw [ask_bind]; congr 1; funext x; exact ih x

theorem bind_assoc (t : Task α) (f : α → Task β) (g : β → Task γ) :
    (t >>= f) >>= g = t >>= fun a => f a >>= g := by
  induction t with
  | done a => rfl
  | ask q rest ih => simp only [ask_bind]; congr 1; funext x; exact ih x

instance : LawfulMonad Task := .mk' Task bind_done (fun _ _ => rfl) bind_assoc

/-! ## Asking -/

/-- The task that asks one thing. -/
def query (q : Query) : Task q.Answer := ask q done

def note (tag : UInt64) (what : Occurrence) : Task Unit := query (.note tag what)

def log (record : LogRecord) : Task Unit := query (.log record)

def clock : Task Nat := query .clock

def pause (millis : Nat) : Task Unit := query (.pause millis)

def timer (millis : Nat) : Task Nat := query (.timer millis)

/-- Waits for as long as the timer takes for so many milliseconds. -/
def rest (millis : Nat) : Task Unit := do pause (← timer millis)

def backoff (millis : Nat) : Task Wake := query (.backoff millis)

def cancel : Task Unit := query .cancel

def count (counter : Nat) (tag : UInt64) : Task Nat := query (.count counter tag)

def startSpan (start : SpanStart) : Task SpanContext := query (.startSpan start)

def finishSpan (span : SpanContext) (error : Option BusError) : Task Unit :=
  query (.finishSpan span error)

def abandonSpan (span : SpanContext) : Task Unit := query (.abandonSpan span)

def settle (settlement : Settlement) : Task Outcome := query (.settle settlement)

def observers : Task (List String) := query .observers

/-! ## What is not asked -/

end Task

/-- Whether a question is kept for the processing of deliveries: it settles one, asks for the
observers of handled messages, or writes to the journal that one of these was done. -/
def Query.isReserved : Query → Bool
  | .settle _ | .observers | .note _ (.settled _) | .note _ (.notified _ _) => true
  | _ => false

namespace Task

variable {α β : Type}

/-- A task that asks nothing reserved, whatever it is answered, and ends only with values of which
`P` holds. -/
def Unreserved (P : α → Prop) : Task α → Prop
  | done a => P a
  | ask q rest => q.isReserved = false ∧ ∀ x, (rest x).Unreserved P

@[simp] theorem unreserved_done (P : α → Prop) (a : α) : (done a).Unreserved P ↔ P a := Iff.rfl

@[simp] theorem unreserved_ask (P : α → Prop) (q : Query) (rest : q.Answer → Task α) :
    (ask q rest).Unreserved P ↔ q.isReserved = false ∧ ∀ x, (rest x).Unreserved P := Iff.rfl

@[simp] theorem unreserved_query (q : Query) (P : q.Answer → Prop) :
    (query q).Unreserved P ↔ q.isReserved = false ∧ ∀ x, P x := Iff.rfl

@[simp] theorem unreserved_bind (t : Task α) (f : α → Task β) (P : β → Prop) :
    (t >>= f).Unreserved P ↔ t.Unreserved fun a => (f a).Unreserved P := by
  induction t with
  | done a => rfl
  | ask q rest ih => simp only [ask_bind, unreserved_ask, ih]

theorem Unreserved.mono {P Q : α → Prop} {t : Task α} (h : t.Unreserved P)
    (hPQ : ∀ a, P a → Q a) : t.Unreserved Q := by
  induction t with
  | done a => exact hPQ a h
  | ask q rest ih => exact ⟨h.1, fun x => ih x (h.2 x)⟩

@[simp] theorem unreserved_rest (millis : Nat) (P : Unit → Prop) :
    (rest millis).Unreserved P ↔ P () :=
  ⟨fun h => (h.2 millis).2 (), fun h => ⟨rfl, fun _ => ⟨rfl, fun _ => h⟩⟩⟩

end Task

end MessageBus
