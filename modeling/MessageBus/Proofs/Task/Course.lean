import MessageBus.Task.Deadline
import MessageBus.Task.Run

/-!
# Courses of tasks

A course of a task is one way in which it can be done: the questions it asks, each with the answer
it gets, and its value. `Task.Course` leaves the answers open, so what holds of every course holds
in all surroundings. `Task.play` does a task in given surroundings and says which course it takes;
doing it in a scene is a case of that (`run_eq_play`). A task that asks nothing reserved has no
reserved question in any of its courses, and a deadline does not add one. Where a task is done in
pieces, from one wait to the next, what it ends with is the value of one of its courses
(`Parked.left_advance`).
-/

set_option autoImplicit false

namespace MessageBus

/-- A question with its answer. -/
structure Turn where
  query : Query
  answer : query.Answer

namespace Task

variable {α β σ : Type}

/-- The courses of a task, by the turns in order and the value at the end. -/
def Course : Task α → List Turn → α → Prop
  | done b, es, a => es = [] ∧ b = a
  | ask q rest, es, a => ∃ x es', es = ⟨q, x⟩ :: es' ∧ (rest x).Course es' a

@[simp] theorem course_done (b a : α) (es : List Turn) :
    (done b).Course es a ↔ es = [] ∧ b = a := Iff.rfl

@[simp] theorem course_query (q : Query) (es : List Turn) (x : q.Answer) :
    (query q).Course es x ↔ es = [⟨q, x⟩] := by
  constructor
  · rintro ⟨y, es', rfl, rfl, rfl⟩
    rfl
  · rintro rfl
    exact ⟨x, [], rfl, rfl, rfl⟩

/-- A course of one task after the other is a course of the first and then one of the second. -/
theorem course_bind (t : Task α) (f : α → Task β) (es : List Turn) (b : β) :
    (t >>= f).Course es b ↔
      ∃ es₁ a es₂, es = es₁ ++ es₂ ∧ t.Course es₁ a ∧ (f a).Course es₂ b := by
  -- by induction on the first task: a course of both begins with its questions
  induction t generalizing es with
  | done a =>
    constructor
    · intro h
      exact ⟨[], a, es, rfl, ⟨rfl, rfl⟩, h⟩
    · rintro ⟨es₁, a', es₂, rfl, ⟨rfl, rfl⟩, h⟩
      exact h
  | ask q rest ih =>
    constructor
    · rintro ⟨x, es', rfl, h⟩
      obtain ⟨es₁, a, es₂, rfl, h₁, h₂⟩ := (ih x es').1 h
      exact ⟨⟨q, x⟩ :: es₁, a, es₂, rfl, ⟨x, es₁, rfl, h₁⟩, h₂⟩
    · rintro ⟨es₁, a, es₂, rfl, ⟨x, es', rfl, h₁⟩, h₂⟩
      exact ⟨x, es' ++ es₂, rfl, (ih x _).2 ⟨es', a, es₂, rfl, h₁, h₂⟩⟩

/-! ## Doing a task -/

/-- Does a task in surroundings that have a state and a rule for their answers: the course it takes,
and the state they are left in. -/
def play (reply : σ → (q : Query) → q.Answer × σ) : σ → Task α → List Turn × α × σ
  | s, done a => ([], a, s)
  | s, ask q rest =>
    let (es, a, s') := play reply (reply s q).2 (rest (reply s q).1)
    (⟨q, (reply s q).1⟩ :: es, a, s')

/-- What is played is a course. -/
theorem course_play (reply : σ → (q : Query) → q.Answer × σ) (s : σ) (t : Task α) :
    t.Course (t.play reply s).1 (t.play reply s).2.1 := by
  induction t generalizing s with
  | done a => exact ⟨rfl, rfl⟩
  | ask q rest ih => exact ⟨(reply s q).1, _, rfl, ih _ _⟩

end Task

/-- The answer of a scene to a question, with the scene after it; a wait takes its time. -/
def Scene.reply (w : Situation) (s : Scene) : (q : Query) → q.Answer × Scene
  | .pause ms => ((), s.after ms)
  | .backoff ms =>
    match s.cutShort? w.token ms with
    | some d => (.cancelled d, s.after d)
    | none => (.elapsed, s.after ms)
  | q => s.answer w q

namespace Task

variable {α : Type}

theorem run_ask (w : Situation) (q : Query) (rest : q.Answer → Task α) (s : Scene) :
    (ask q rest).run w s = (rest (s.reply w q).1).run w (s.reply w q).2 := by
  cases q
  case backoff ms =>
    rw [run, Scene.reply]
    cases s.cutShort? w.token ms <;> rfl
  all_goals rfl

theorem run_query (w : Situation) (q : Query) (s : Scene) : (query q).run w s = s.reply w q :=
  run_ask w q done s

/-- One task after the other is done in the scene that the first one leaves. -/
theorem run_bind {β : Type} (w : Situation) (t : Task α) (f : α → Task β) (s : Scene) :
    (t >>= f).run w s = (f (t.run w s).1).run w (t.run w s).2 := by
  induction t generalizing s with
  | done a => rfl
  | ask q rest ih => rw [ask_bind, run_ask, run_ask, ih]

/-- Doing a task in a scene is playing it with the scene's answers. -/
theorem run_eq_play (w : Situation) (t : Task α) (s : Scene) :
    t.run w s = (t.play (Scene.reply w) s).2 := by
  induction t generalizing s with
  | done a => rfl
  | ask q rest ih => rw [run_ask, ih]; rfl

/-! ## Nothing reserved -/

theorem Unreserved.of_course {P : α → Prop} {t : Task α} {es : List Turn} {a : α}
    (h : t.Unreserved P) (hc : t.Course es a) : (∀ e ∈ es, e.query.isReserved = false) ∧ P a := by
  induction t generalizing es with
  | done b =>
    obtain ⟨rfl, rfl⟩ := hc
    exact ⟨by simp, h⟩
  | ask q rest ih =>
    obtain ⟨x, es', rfl, hc⟩ := hc
    obtain ⟨hes, hP⟩ := ih x (h.2 x) hc
    refine ⟨?_, hP⟩
    intro e he
    rcases List.mem_cons.1 he with rfl | he
    · exact h.1
    · exact hes e he

theorem unreserved_abandon (opened : List SpanContext) :
    (abandon opened).Unreserved fun _ => True := by
  induction opened with
  | nil => trivial
  | cons c rest ih => exact ⟨rfl, fun _ => ih⟩

theorem unreserved_giveUp (opened : List SpanContext) :
    (do abandon opened; return none : Task (Option α)).Unreserved fun _ => True :=
  (unreserved_bind _ _ _).2 ((unreserved_abandon opened).mono fun _ _ => trivial)

/-- A deadline asks nothing reserved by itself: besides the questions of the task there are waits,
and ends of spans that are abandoned. -/
theorem Unreserved.cutOff {t : Task α} (h : t.Unreserved fun _ => True) (left : Nat)
    (opened : List SpanContext) : (t.cutOff left opened).Unreserved fun _ => True := by
  induction t generalizing left opened with
  | done a => trivial
  | ask q rest ih =>
    obtain ⟨hq, hrest⟩ := h
    -- the deadline shows in waits only; all other questions are asked as they are
    cases q
    case pause ms =>
      rw [Task.cutOff]
      split
      · exact ⟨rfl, fun _ => ih () (hrest ()) _ _⟩
      · exact ⟨rfl, fun _ => unreserved_giveUp opened⟩
    case backoff ms =>
      rw [Task.cutOff]
      refine ⟨rfl, fun wake => ?_⟩
      cases wake with
      | cancelled after => exact ih _ (hrest _) _ _
      | elapsed =>
        dsimp only
        split
        · exact ih _ (hrest _) _ _
        · exact unreserved_giveUp opened
    all_goals exact ⟨hq, fun x => ih x (hrest x) _ _⟩

/-! ## Doing a task in pieces -/

/-- A part of a task was done, and `rest` is left: every course of the rest completes one of the
whole. -/
def Part (t : Task α) (es : List Turn) (rest : Task α) : Prop :=
  ∀ es' a, rest.Course es' a → t.Course (es ++ es') a

theorem part_nil (t : Task α) : t.Part [] t := fun _ _ h => h

theorem Part.ask {t : Task α} {es : List Turn} {q : Query} {rest : q.Answer → Task α}
    (h : t.Part es (ask q rest)) (x : q.Answer) : t.Part (es ++ [⟨q, x⟩]) (rest x) := by
  intro es' a hc
  rw [List.append_assoc]
  exact h _ a ⟨x, es', rfl, hc⟩

theorem Part.done {t : Task α} {es : List Turn} {a : α} (h : t.Part es (done a)) :
    t.Course es a := by
  have hc := h [] a ⟨rfl, rfl⟩
  rwa [List.append_nil] at hc

end Task

namespace Parked

variable {α : Type}

/-- What is over, or waits, is what is left of a task after a part of it. -/
def Left (t : Task α) : Parked α → Prop
  | ended a => ∃ es, t.Course es a
  | stranded => True
  | sleeping _ rest => ∃ es, t.Part es rest
  | backingOff _ _ _ rest => ∀ wake, ∃ es, t.Part es (rest wake)

/-- Doing what is left up to the next wait leaves a rest of the same task. -/
theorem left_advance {t rest : Task α} {es : List Turn} (h : t.Part es rest) (w : Situation)
    (s : Scene) : (rest.advance w s).1.Left t := by
  induction rest generalizing es s with
  | done a => exact ⟨es, h.done⟩
  | ask q rest ih =>
    -- a wait that takes time leaves its answers open; all other answers come at once, or never
    cases q
    case pause ms =>
      rw [Task.advance]
      split
      · exact ih () (h.ask ()) s
      · exact ⟨_, h.ask ()⟩
    case backoff ms =>
      rw [Task.advance]
      split
      · exact ih _ (h.ask _) s
      · split
        · exact ih _ (h.ask _) s
        · exact fun wake => ⟨_, h.ask wake⟩
    all_goals
      simp only [Task.advance]
      split
      · exact ih _ (h.ask _) _
      · trivial

/-- However a wait ends, what goes on is what was left. -/
theorem Left.wake {t rest : Task α} {work : Parked α} {s : Scene} (h : work.Left t)
    (hwake : work.wake? s = some rest) : ∃ es, t.Part es rest := by
  cases work with
  | ended a => cases hwake
  | stranded => cases hwake
  | sleeping time rest' =>
    obtain ⟨-, rfl⟩ : _ ∧ rest' = rest := by simpa [wake?] using hwake
    exact h
  | backingOff since time token rest' =>
    simp only [wake?] at hwake
    split at hwake
    · obtain rfl := Option.some.inj hwake
      exact h _
    · split at hwake
      · obtain rfl := Option.some.inj hwake
        exact h _
      · cases hwake

end Parked

end MessageBus
