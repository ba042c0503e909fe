import Mathlib.Data.List.Forall2
import MessageBus.Proofs.Task.Course

/-!
# Courses under a deadline

A task with a deadline does what the task does, up to the end or up to a wait that would last too
long; that wait is shortened, and then only spans are ended. Main statement: `course_cutOff`.
-/

set_option autoImplicit false

namespace MessageBus

/-- A turn, or the same with a shorter wait. -/
inductive Turn.Shortened : Turn → Turn → Prop where
  | same (e : Turn) : Shortened e e
  | wait {millis millis' : Nat} {wake : Wake} (h : millis' ≤ millis) :
      Shortened ⟨.backoff millis', wake⟩ ⟨.backoff millis, wake⟩

/-- Whether a question is asked when time runs out: a wait, or the end of a span. -/
def Query.givesUp : Query → Bool
  | .pause _ | .backoff _ | .abandonSpan _ => true
  | _ => false

instance (q : Query) : Nonempty q.Answer :=
  match q with
  | .note _ _ | .log _ | .pause _ | .cancel | .finishSpan _ _ | .abandonSpan _ => ⟨()⟩
  | .clock | .timer _ | .count _ _ => ⟨(0 : Nat)⟩
  | .backoff _ => ⟨Wake.elapsed⟩
  | .startSpan _ => ⟨(default : SpanContext)⟩
  | .settle _ => ⟨(.ok () : Outcome)⟩
  | .observers => ⟨([] : List String)⟩

namespace Task

variable {α : Type}

/-- Every task has a course. -/
theorem exists_course (t : Task α) : ∃ es a, t.Course es a := by
  induction t with
  | done a => exact ⟨[], a, rfl, rfl⟩
  | ask q rest ih =>
    obtain ⟨x⟩ : Nonempty q.Answer := inferInstance
    obtain ⟨es, a, h⟩ := ih x
    exact ⟨⟨q, x⟩ :: es, a, x, es, rfl, h⟩

/-- What a task with a deadline can do. -/
inductive Cut (t : Task α) : List Turn → Option α → Prop where
  | inTime {es es' : List Turn} {a : α} (h : t.Course es' a)
      (hes : List.Forall₂ Turn.Shortened es es') : Cut t es (some a)
  /-- It has done a beginning of its work, and then given up. -/
  | late {es es' begun rest : List Turn} {a : α} (h : t.Course (begun ++ rest) a)
      (hes : List.Forall₂ Turn.Shortened es begun) (hlast : ∀ e ∈ es', e.query.givesUp = true) :
      Cut t (es ++ es') none

variable {t : Task α} {es : List Turn} {r : Option α} {opened : List SpanContext}

theorem Cut.ask {q : Query} {rest : q.Answer → Task α} {e : Turn} {x : q.Answer}
    (h : (rest x).Cut es r) (he : e.Shortened ⟨q, x⟩) : (ask q rest).Cut (e :: es) r := by
  cases h with
  | inTime h hes => exact .inTime ⟨x, _, rfl, h⟩ (.cons he hes)
  | @late es₁ es₂ begun more a h hes hlast =>
    have hcut : (Task.ask q rest).Cut ((e :: es₁) ++ es₂) none :=
      .late ⟨x, begun ++ more, rfl, h⟩ (.cons he hes) hlast
    exact hcut

theorem givesUp_of_abandon
    (h : (do abandon opened; return none : Task (Option α)).Course es r) :
    r = none ∧ ∀ e ∈ es, e.query.givesUp = true := by
  induction opened generalizing es with
  | nil =>
    obtain ⟨rfl, rfl⟩ := h
    exact ⟨rfl, by simp⟩
  | cons c rest ih =>
    obtain ⟨x, es', rfl, h⟩ := h
    obtain ⟨hr, hes'⟩ := ih h
    exact ⟨hr, List.forall_mem_cons.2 ⟨rfl, hes'⟩⟩

/-- A wait at which time runs out is the last thing a task does. -/
theorem cut_of_abandon {e : Turn} (he : e.query.givesUp = true)
    (h : (do abandon opened; return none : Task (Option α)).Course es r) : t.Cut (e :: es) r := by
  obtain ⟨rfl, hes⟩ := givesUp_of_abandon h
  obtain ⟨rest, a, hcourse⟩ := t.exists_course
  have hcut : t.Cut ([] ++ e :: es) none :=
    .late (show t.Course ([] ++ rest) a from hcourse) .nil (List.forall_mem_cons.2 ⟨he, hes⟩)
  exact hcut

/-- A task with a deadline does what the task does, in time, or a beginning of that. -/
theorem course_cutOff {left : Nat} (h : (t.cutOff left opened).Course es r) : t.Cut es r := by
  induction t generalizing left opened es with
  | done a =>
    obtain ⟨rfl, rfl⟩ := h
    exact .inTime ⟨rfl, rfl⟩ .nil
  | ask q rest ih =>
    -- the deadline shows in waits only; all other questions are asked as they are
    cases q
    case pause ms =>
      rw [cutOff] at h
      split at h
      · obtain ⟨x, es', rfl, h⟩ := h
        exact (ih () h).ask (.same _)
      · obtain ⟨x, es', rfl, h⟩ := h
        exact cut_of_abandon rfl h
    case backoff ms =>
      rw [cutOff] at h
      obtain ⟨wake, es', rfl, h⟩ := h
      cases wake with
      | cancelled after => exact (ih _ h).ask (.wait (Nat.min_le_left _ _))
      | elapsed =>
        dsimp only at h
        split at h
        · exact (ih _ h).ask (.wait (Nat.min_le_left _ _))
        · exact cut_of_abandon rfl h
    all_goals
      obtain ⟨x, es', rfl, h⟩ := h
      exact (ih x h).ask (.same _)

end Task

end MessageBus
