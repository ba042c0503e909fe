import MessageBus.Proofs.Scene.Later
import MessageBus.Proofs.Task.Reach

/-!
# Tasks on the clock

What a task does in a scene, apart from its waits, are its moments: the turns it takes, each at a
time. The journal shows the moments that are written to it (`journal_run`). A task with a deadline
whose last wait ends in time is the task itself (`unhurried_of_inTime`). Otherwise it is given up at
the deadline, not a millisecond earlier or later: its moments are those of the task up to then, and
after them the spans that are open are abandoned (`givenUp_of_not_inTime`).

There is one time at which both may be ready at once: a wait that is cut short at the deadline
itself. It is given up, so the task is `Tied` there and not in time.
-/

set_option autoImplicit false

namespace MessageBus

/-- A turn, and the time at which it is taken. -/
structure Moment where
  time : Nat
  turn : Turn

/-- The turns of some moments. -/
def turnsOf (ms : List Moment) : List Turn := ms.map Moment.turn

theorem turnsOf_cons (m : Moment) (ms : List Moment) : turnsOf (m :: ms) = m.turn :: turnsOf ms :=
  rfl

namespace Scene

variable {w : Situation} {s : Scene} {q : Query}

/-- Only a wait takes time. -/
theorem now_reply (hq : q.isWait = false) : (s.reply w q).2.now = s.now := by
  cases q with
  | pause ms => cases hq
  | backoff ms => cases hq
  | settle what =>
    show (s.answer w (.settle what)).2.now = s.now
    unfold answer settle?
    cases w.acknowledger with
    | scripted tag ackError nackError => rfl
    | channel channel tag =>
      cases what <;> dsimp only <;> cases s.broker.requestByNumber channel _ <;> rfl
  | note | log | clock | timer | cancel | count | startSpan | finishSpan | abandonSpan
  | observers => rfl

/-- The clock does not go back. -/
theorem now_le_reply (w : Situation) (s : Scene) (q : Query) : s.now ≤ (s.reply w q).2.now := by
  cases q with
  | pause ms => exact Nat.le_add_right _ _
  | backoff ms =>
    unfold reply
    dsimp only
    split <;> exact Nat.le_add_right _ _
  | note | log | clock | timer | cancel | count | startSpan | finishSpan | abandonSpan | settle
  | observers => exact Nat.le_of_eq (now_reply rfl).symm

end Scene

namespace Task

variable {α β : Type} {w : Situation}

/-- What a task does in a scene, apart from its waits. -/
def moments (w : Situation) : Task α → Scene → List Moment
  | done _, _ => []
  | ask q rest, s =>
    (if q.isWait then [] else [⟨s.now, q, (s.reply w q).1⟩]) ++
      moments w (rest (s.reply w q).1) (s.reply w q).2

theorem moments_ask {q : Query} (hq : q.isWait = false) (rest : q.Answer → Task α) (s : Scene) :
    (ask q rest).moments w s =
      ⟨s.now, q, (s.reply w q).1⟩ :: (rest (s.reply w q).1).moments w (s.reply w q).2 := by
  rw [moments, if_neg (by simp [hq])]
  rfl

theorem moments_wait {q : Query} (hq : q.isWait = true) (rest : q.Answer → Task α) (s : Scene) :
    (ask q rest).moments w s = (rest (s.reply w q).1).moments w (s.reply w q).2 := by
  rw [moments, if_pos hq]
  rfl

end Task

/-! ## The journal -/

/-- The line of the journal that a moment writes. -/
def Moment.entry? (w : Situation) (m : Moment) : Option Entry :=
  match m.turn.query with
  | .note tag what => some ⟨m.time, tag, what⟩
  | .settle what =>
    match w.acknowledger with
    | .scripted tag _ _ => some ⟨m.time, tag, .settled what⟩
    | .channel _ _ => none
  | _ => none

theorem Scene.journal_reply (w : Situation) (s : Scene) (q : Query) :
    (s.reply w q).2.journal =
      s.journal ++ (Moment.entry? w ⟨s.now, q, (s.reply w q).1⟩).toList := by
  have hsame : s.journal = s.journal ++ (none : Option Entry).toList :=
    (List.append_nil s.journal).symm
  cases q with
  | note tag what => rfl
  | backoff ms =>
    unfold Scene.reply
    dsimp only
    split <;> exact hsame
  | settle what =>
    show (s.answer w (.settle what)).2.journal = _
    unfold Moment.entry? Scene.answer Scene.settle?
    cases w.acknowledger with
    | scripted tag ackError nackError => rfl
    | channel channel tag =>
      cases what <;> dsimp only <;> cases s.broker.requestByNumber channel _ <;> exact hsame
  | log | clock | timer | pause | cancel | count | startSpan | finishSpan | abandonSpan
  | observers => exact hsame

namespace Task

variable {α β : Type} {w : Situation}

/-- A run adds to the journal what its moments write. -/
theorem journal_run (w : Situation) (t : Task α) (s : Scene) :
    (t.run w s).2.journal = s.journal ++ (t.moments w s).filterMap (Moment.entry? w) := by
  induction t generalizing s with
  | done a => exact (List.append_nil s.journal).symm
  | ask q rest ih =>
    rw [run_ask, ih, s.journal_reply w q, List.append_assoc]
    cases hq : q.isWait with
    | true =>
      rw [moments_wait hq]
      have hnone : Moment.entry? w ⟨s.now, q, (s.reply w q).1⟩ = none := by
        cases q <;> first | rfl | cases hq
      rw [hnone]
      rfl
    | false =>
      rw [moments_ask hq, List.filterMap_cons]
      cases Moment.entry? w ⟨s.now, q, (s.reply w q).1⟩ <;> rfl

/-! ## Giving up -/

/-- A wait of the task is cut short at a time at which it was not over before. -/
def Tied (w : Situation) (time : Nat) : Task α → Scene → Prop
  | done _, _ => False
  | ask q rest, s =>
    (∃ millis d, q = .backoff millis ∧ s.cutShort? w.token millis = some d ∧ 0 < d ∧
      s.now + d = time) ∨
    Tied w time (rest (s.reply w q).1) (s.reply w q).2

theorem Tied.lt {time : Nat} {t : Task α} {s : Scene} (h : t.Tied w time s) : s.now < time := by
  induction t generalizing s with
  | done a => exact h.elim
  | ask q rest ih =>
    rcases h with ⟨millis, d, rfl, -, hpos, htime⟩ | h
    · omega
    · exact Nat.lt_of_le_of_lt (s.now_le_reply w q) (ih _ h)

theorem tied_ask {time : Nat} {q : Query} {rest : q.Answer → Task α} {s : Scene}
    (hq : ∀ millis, q ≠ .backoff millis) :
    (ask q rest).Tied w time s ↔ (rest (s.reply w q).1).Tied w time (s.reply w q).2 :=
  or_iff_right fun ⟨millis, _, hbackoff, _⟩ => hq millis hbackoff

/-- The task comes to its end within so many milliseconds. -/
def InTime (w : Situation) (left : Nat) (t : Task α) (s : Scene) : Prop :=
  (t.run w s).2.now ≤ s.now + left ∧ ¬t.Tied w (s.now + left) s

/-- The moments that a deadline leaves to a task: those up to it, or those before it where a wait is
cut short at the deadline itself. -/
def Kept (w : Situation) (time : Nat) (t : Task α) (s : Scene) (ms : List Moment) : Prop :=
  (¬t.Tied w time s ∧ ms = (t.moments w s).filter (·.time ≤ time)) ∨
    (t.Tied w time s ∧ ms = (t.moments w s).filter (·.time < time))

/-- With so many milliseconds, the task does what it does without a deadline. -/
structure Unhurried (w : Situation) (left : Nat) (opened : List Span) (t : Task α) (s : Scene) :
    Prop where
  inTime : t.InTime w left s
  run : (t.cutOff left (contexts opened)).run w s = (some (t.run w s).1, (t.run w s).2)
  moments : (t.cutOff left (contexts opened)).moments w s = t.moments w s

/-- The task is given up at the end of its time. -/
structure GivenUp (w : Situation) (left : Nat) (opened : List Span) (t : Task α) (s : Scene) :
    Prop where
  late : ¬t.InTime w left s
  result : ((t.cutOff left (contexts opened)).run w s).1 = none
  now : ((t.cutOff left (contexts opened)).run w s).2.now = s.now + left
  /-- It has done what the task does by then, and the spans that are open are ended. -/
  moments : ∃ ms, t.Kept w (s.now + left) s ms ∧
    (t.cutOff left (contexts opened)).moments w s = ms ++
      (abandoning (contexts (openAfter opened (spanEvents (turnsOf ms))))).map
        (Moment.mk (s.now + left))

variable {left : Nat} {opened : List Span} {q : Query} {rest : q.Answer → Task α} {s : Scene}

/-! ### What takes no time -/

/-- A deadline asks what takes no time as it is, and counts the spans along. -/
theorem cutOff_ask (hq : q.isWait = false) (rest : q.Answer → Task α) (left : Nat)
    (opened : List Span) :
    (ask q rest).cutOff left (contexts opened) =
      ask q fun x => (rest x).cutOff left
        (contexts (openAfter opened (Turn.spanEvent? ⟨q, x⟩).toList)) := by
  cases q with
  | pause ms => cases hq
  | backoff ms => cases hq
  | finishSpan c e => rw [cutOff, contexts_filter]; rfl
  | abandonSpan c => rw [cutOff, contexts_filter]; rfl
  | note | log | clock | timer | cancel | count | startSpan | settle | observers => rfl

theorem inTime_ask (hq : q.isWait = false) :
    (ask q rest).InTime w left s ↔
      (rest (s.reply w q).1).InTime w left (s.reply w q).2 := by
  unfold InTime
  rw [run_ask, Scene.now_reply hq]
  refine and_congr_right fun _ => not_congr (tied_ask ?_)
  rintro millis rfl
  cases hq

theorem Kept.ask {time : Nat} {ms : List Moment} (hq : q.isWait = false) (hnow : s.now ≤ time)
    (h : (rest (s.reply w q).1).Kept w time (s.reply w q).2 ms) :
    (ask q rest).Kept w time s (⟨s.now, q, (s.reply w q).1⟩ :: ms) := by
  have htied : (Task.ask q rest).Tied w time s ↔
      (rest (s.reply w q).1).Tied w time (s.reply w q).2 := by
    refine tied_ask ?_
    rintro millis rfl
    cases hq
  rcases h with ⟨hnot, rfl⟩ | ⟨hyes, rfl⟩
  · refine .inl ⟨mt htied.1 hnot, ?_⟩
    rw [moments_ask hq, List.filter_cons_of_pos (by simpa using hnow)]
  · have hlt : s.now < time := (htied.2 hyes).lt
    refine .inr ⟨htied.2 hyes, ?_⟩
    rw [moments_ask hq, List.filter_cons_of_pos (by simpa using hlt)]

theorem Unhurried.ask (hq : q.isWait = false)
    (h : (rest (s.reply w q).1).Unhurried w left
      (openAfter opened (Turn.spanEvent? ⟨q, (s.reply w q).1⟩).toList) (s.reply w q).2) :
    (ask q rest).Unhurried w left opened s where
  inTime := (inTime_ask hq).2 h.inTime
  run := by rw [cutOff_ask hq, run_ask, run_ask]; exact h.run
  moments := by rw [cutOff_ask hq, moments_ask hq, moments_ask hq, h.moments]

theorem GivenUp.ask (hq : q.isWait = false)
    (h : (rest (s.reply w q).1).GivenUp w left
      (openAfter opened (Turn.spanEvent? ⟨q, (s.reply w q).1⟩).toList) (s.reply w q).2) :
    (ask q rest).GivenUp w left opened s where
  late := mt (inTime_ask hq).1 h.late
  result := by rw [cutOff_ask hq, run_ask]; exact h.result
  now := by rw [cutOff_ask hq, run_ask, ← Scene.now_reply (w := w) (s := s) hq]; exact h.now
  moments := by
    obtain ⟨ms, hkept, hms⟩ := h.moments
    rw [Scene.now_reply hq] at hkept hms
    refine ⟨_, hkept.ask hq (Nat.le_add_right _ _), ?_⟩
    rw [cutOff_ask hq, moments_ask hq, hms, turnsOf_cons, spanEvents_cons, openAfter_append]
    rfl

/-! ### Waits -/

/-- A wait that is over in time: after it a task with a deadline goes on with what is left. -/
structure Waited (w : Situation) (left elapsed : Nat) (opened : List Span) (q : Query)
    (rest : q.Answer → Task α) (s : Scene) : Prop where
  wait : q.isWait = true
  le : elapsed ≤ left
  now : (s.reply w q).2.now = s.now + elapsed
  tied : (ask q rest).Tied w (s.now + left) s ↔
    (rest (s.reply w q).1).Tied w (s.now + left) (s.reply w q).2
  run : ((ask q rest).cutOff left (contexts opened)).run w s =
    ((rest (s.reply w q).1).cutOff (left - elapsed) (contexts opened)).run w (s.reply w q).2
  moments : ((ask q rest).cutOff left (contexts opened)).moments w s =
    ((rest (s.reply w q).1).cutOff (left - elapsed) (contexts opened)).moments w (s.reply w q).2

variable {elapsed : Nat}

/-- The deadline is the same before the wait and after it. -/
theorem Waited.deadline (hw : Waited w left elapsed opened q rest s) :
    (s.reply w q).2.now + (left - elapsed) = s.now + left := by
  have hle := hw.le
  have hnow := hw.now
  omega

theorem Waited.inTime_iff (hw : Waited w left elapsed opened q rest s) :
    (ask q rest).InTime w left s ↔
      (rest (s.reply w q).1).InTime w (left - elapsed) (s.reply w q).2 := by
  unfold InTime
  rw [run_ask, hw.deadline, hw.tied]

theorem Unhurried.wait (hw : Waited w left elapsed opened q rest s)
    (h : (rest (s.reply w q).1).Unhurried w (left - elapsed) opened (s.reply w q).2) :
    (Task.ask q rest).Unhurried w left opened s where
  inTime := hw.inTime_iff.2 h.inTime
  run := by rw [hw.run, h.run, run_ask]
  moments := by rw [hw.moments, h.moments, moments_wait hw.wait]

theorem GivenUp.wait (hw : Waited w left elapsed opened q rest s)
    (h : (rest (s.reply w q).1).GivenUp w (left - elapsed) opened (s.reply w q).2) :
    (Task.ask q rest).GivenUp w left opened s where
  late := mt hw.inTime_iff.1 h.late
  result := by rw [hw.run]; exact h.result
  now := by rw [hw.run, h.now, hw.deadline]
  moments := by
    obtain ⟨ms, hkept, hms⟩ := h.moments
    rw [hw.deadline] at hkept hms
    refine ⟨ms, ?_, hw.moments.trans hms⟩
    unfold Kept at hkept ⊢
    rwa [hw.tied, moments_wait hw.wait]

end Task

end MessageBus
