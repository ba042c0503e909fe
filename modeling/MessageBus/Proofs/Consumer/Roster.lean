import Mathlib.Data.List.Induction
import MessageBus.Proofs.Consumer.Handling

/-!
# The handlers a delivery meets

Handlers can be connected while deliveries are under way. The handlers of a processor are at any
time those of its settings and after them those that were connected, in order (`handlers_moves`). A
job does its work with the handlers that were there when it began, so that its first handler was
about to run, and with no others: whoever is connected between its admission and that move takes
part, and nobody who is connected later (`exists_beginning`).
-/

set_option autoImplicit false

namespace MessageBus.Processor

/-- The handler that a move connects. -/
def Move.handler? : Move → Option Handler
  | .connectHandler h => some h
  | _ => none

/-- The handlers that are connected in a history, in order. -/
def connected (ms : List Move) : List Handler := ms.filterMap Move.handler?

theorem handlers_move (p : Processor) (m : Move) :
    (p.move m).handlers = p.handlers ++ m.handler?.toList := by
  have hsame : p.handlers = p.handlers ++ (none : Option Handler).toList :=
    (List.append_nil p.handlers).symm
  cases m with
  | connectHandler h => rfl
  | request delivery acknowledger token => exact hsame
  | addObserver name => exact hsame
  | grant s =>
    show (((p.grant? s).map Prod.snd).getD p).handlers = _
    cases h : p.grant? s with
    | none => exact hsame
    | some r =>
      obtain ⟨s', p'⟩ := r
      obtain ⟨i, j, -, -, -, -, -, hp⟩ := grant?_eq_some h
      show p'.handlers = _
      rw [hp]
      exact hsame
  | resume s i =>
    show (((p.resume? s i).map Prod.snd).getD p).handlers = _
    cases h : p.resume? s i with
    | none => exact hsame
    | some r =>
      obtain ⟨s', p'⟩ := r
      obtain ⟨j, since, rest, work, -, -, -, hp⟩ := resume?_eq_some h
      show p'.handlers = _
      rw [hp]
      exact hsame

theorem handlers_moves (p : Processor) (ms : List Move) :
    (p.moves ms).handlers = p.handlers ++ connected ms := by
  induction ms generalizing p with
  | nil => exact (List.append_nil p.handlers).symm
  | cons m ms ih =>
    show ((p.move m).moves ms).handlers = _
    rw [ih, handlers_move, List.append_assoc, connected, connected, List.filterMap_cons]
    cases m.handler? <;> rfl

/-- A job is somewhere on a course of some work, or has been stranded on it. -/
def Follows (work : Task Outcome) (j : Job) : Prop :=
  match j.phase with
  | .waiting | .admitted _ => False
  | .running _ left => left.Left work
  | .ended _ _ result => ∃ es, work.Course es result

/-- Where in a history job number `i` began: it had its permit before, and had not begun. -/
structure Beginning (p : Processor) (ms before : List Move) (s : Scene) (later : List Move)
    (i : Nat) : Prop where
  history : ms = before ++ .resume s i :: later
  admitted : ∃ j since, (p.moves before).jobs[i]? = some j ∧ j.phase = .admitted since
  begun : ∃ j, (p.moves (before ++ [.resume s i])).jobs[i]? = some j ∧ j.hasBegun = true

theorem Beginning.append {p : Processor} {ms before later : List Move} {s : Scene} {i : Nat}
    (h : p.Beginning ms before s later i) (more : List Move) :
    p.Beginning (ms ++ more) before s (later ++ more) i where
  history := by rw [h.history, List.append_assoc]; rfl
  admitted := h.admitted
  begun := h.begun

variable {p p' : Processor} {s s' : Scene} {j j' : Job}

theorem follows_settled {work : Task Outcome} {left : Parked Outcome} (h : left.Left work)
    (since : Nat) (s : Scene) : Follows work (j.settled since left s) := by
  cases left with
  | ended result => exact h
  | stranded | sleeping | backingOff => exact h

/-- A job that goes on after a wait follows the same work. -/
theorem Follows.resumed {work : Task Outcome} {since since' : Nat} {parked left : Parked Outcome}
    {rest : Task Outcome} {w : Situation} (h : Follows work j)
    (hphase : j.phase = .running since' parked) (hwake : parked.wake? s = some rest)
    (hwork : rest.advance w s = (left, s')) : Follows work (j.settled since left s') := by
  unfold Follows at h
  rw [hphase] at h
  obtain ⟨es, hpart⟩ := Parked.Left.wake h hwake
  have hleft := Parked.left_advance hpart w s
  rw [hwork] at hleft
  exact follows_settled hleft since s'

/-- What a job has to do is not changed by what it has done. -/
theorem work_settled (p : Processor) (since : Nat) (left : Parked Outcome) (s : Scene) :
    p.work (j.settled since left s) = p.work j := by
  unfold Processor.work
  rw [Job.settled_delivery]

/-- What a move has done to a job: nothing, or the job has not begun yet, or the move let it do what
it had left to do. -/
theorem getElem?_move {i : Nat} {m : Move} (hj : (p.move m).jobs[i]? = some j) :
    p.jobs[i]? = some j ∨ j.hasBegun = false ∨
      ∃ s s' j₀ since rest work, m = .resume s i ∧ p.jobs[i]? = some j₀ ∧ p.Due s j₀ since rest ∧
        rest.advance (j₀.situation p.observers) s = (work, s') ∧ j = j₀.settled since work s' := by
  cases m with
  | request delivery acknowledger token =>
    have hjobs : (p.jobs ++ [⟨delivery, acknowledger, token, .waiting⟩])[i]? = some j := hj
    by_cases hlt : i < p.jobs.length
    · rw [List.getElem?_append_left hlt] at hjobs
      exact .inl hjobs
    · rw [List.getElem?_append_right (Nat.not_lt.1 hlt)] at hjobs
      obtain rfl := List.mem_singleton.1 (List.mem_of_getElem? hjobs)
      exact .inr (.inl rfl)
  | connectHandler h => exact .inl hj
  | addObserver name => exact .inl hj
  | grant s =>
    have hmove : (((p.grant? s).map Prod.snd).getD p).jobs[i]? = some j := hj
    cases hg : p.grant? s with
    | none =>
      rw [hg] at hmove
      exact .inl hmove
    | some r =>
      rw [hg] at hmove
      obtain ⟨s', p'⟩ := r
      obtain ⟨k, j₀, -, hfound, hwaiting, -, -, hp'⟩ := grant?_eq_some hg
      have hran : p.Ran s p' s k j₀ (j₀.admitted s.now) :=
        ⟨hfound, by rw [hp']; rfl, .admitted hwaiting⟩
      rcases hran.getElem? i with ⟨rfl, -, hset⟩ | hsame
      · obtain rfl := Option.some.inj (hset.symm.trans hmove)
        exact .inr (.inl rfl)
      · exact .inl (hsame.symm.trans hmove)
  | resume s k =>
    have hmove : (((p.resume? s k).map Prod.snd).getD p).jobs[i]? = some j := hj
    cases hr : p.resume? s k with
    | none =>
      rw [hr] at hmove
      exact .inl hmove
    | some r =>
      rw [hr] at hmove
      obtain ⟨s', p'⟩ := r
      obtain ⟨j₀, since, rest, work, hfound, hdue, hwork, hp'⟩ := resume?_eq_some hr
      have hran : p.Ran s p' s' k j₀ (j₀.settled since work s') :=
        ⟨hfound, by rw [hp']; rfl, .resumed hdue hwork⟩
      rcases hran.getElem? i with ⟨rfl, -, hset⟩ | hsame
      · have hj' := Option.some.inj (hset.symm.trans hmove)
        exact .inr (.inr ⟨s, s', j₀, since, rest, work, rfl, hfound, hdue, hwork, hj'.symm⟩)
      · exact .inl (hsame.symm.trans hmove)

/-- A job that has begun follows its work as it was in the processor when it began, with the
handlers of that time. -/
theorem exists_beginning (p : Processor) (hp : p.jobs = []) (ms : List Move) {i : Nat}
    (hj : (p.moves ms).jobs[i]? = some j) (hbegun : j.hasBegun = true) :
    ∃ before s later, p.Beginning ms before s later i ∧ Follows ((p.moves before).work j) j := by
  -- by induction on the history from its end: in the last move the job begins or goes on, or the
  -- move leaves it alone
  induction ms using List.reverseRecOn generalizing j with
  | nil =>
    have hnone : p.jobs[i]? = some j := hj
    rw [hp] at hnone
    cases hnone
  | append_singleton ms m ih =>
    have hmove : ((p.moves ms).move m).jobs[i]? = some j := by
      rwa [moves, List.foldl_append] at hj
    rcases getElem?_move hmove with
      hsame | hfresh | ⟨s, s', j₀, since, rest, left, rfl, hfound, hdue, hwork, rfl⟩
    · obtain ⟨before, s, later, hbeginning, hfollows⟩ := ih hsame hbegun
      exact ⟨before, s, later ++ [m], hbeginning.append [m], hfollows⟩
    · rw [hfresh] at hbegun
      cases hbegun
    · cases hdue with
      | begins hphase =>
        refine ⟨ms, s, [], ⟨rfl, ⟨j₀, since, hfound, hphase⟩, ⟨_, hj, hbegun⟩⟩, ?_⟩
        have hleft := Parked.left_advance (Task.part_nil ((p.moves ms).work j₀))
          (j₀.situation (p.moves ms).observers) s
        rw [hwork] at hleft
        rw [work_settled]
        exact follows_settled hleft since s'
      | wakes hphase hwake =>
        have hrunning : j₀.hasBegun = true := by unfold Job.hasBegun; rw [hphase]
        obtain ⟨before, s₀, later, hbeginning, hfollows⟩ := ih hfound hrunning
        refine ⟨before, s₀, later ++ [.resume s i], hbeginning.append _, ?_⟩
        rw [work_settled]
        exact hfollows.resumed hphase hwake hwork

end MessageBus.Processor
