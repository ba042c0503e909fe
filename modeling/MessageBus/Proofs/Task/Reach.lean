import MessageBus.Proofs.Task.Deadline
import MessageBus.Proofs.Tracing.Accounts

/-!
# How far tasks come

A task may be cut short at any of its waits. `Task.Reaches` says which turns it has taken by then,
or by its end. A task with a deadline either comes to its end in time, or reaches a wait at which
time runs out; that wait is shortened, and then the spans are abandoned that the task has left open
(`deadlined_of_course`). A task that ends only spans of its own does so however far it comes
(`EndsOwn.of_reaches`).
-/

set_option autoImplicit false

namespace MessageBus

/-- Whether a question is about a span. -/
def Query.isSpan : Query → Bool
  | .startSpan _ | .finishSpan _ _ | .abandonSpan _ => true
  | _ => false

/-- Whether a question is a wait. -/
def Query.isWait : Query → Bool
  | .pause _ | .backoff _ => true
  | _ => false

/-- The turns in which spans are abandoned. -/
def abandoning (cs : List SpanContext) : List Turn := cs.map fun c => ⟨.abandonSpan c, ()⟩

namespace Task

variable {α β : Type} {t : Task α} {es : List Turn} {r : Option α} {a : α}

/-- The turns of a task up to its end, with its value, or up to one of its waits. -/
def Reaches : Task α → List Turn → Option α → Prop
  | done a, es, r => es = [] ∧ r = some a
  | ask q rest, es, r =>
    (q.isWait = true ∧ es = [] ∧ r = none) ∨ ∃ x es', es = ⟨q, x⟩ :: es' ∧ (rest x).Reaches es' r

/-- A task that comes to its end has taken one of its courses. -/
theorem reaches_some : t.Reaches es (some a) ↔ t.Course es a := by
  induction t generalizing es with
  | done b =>
    constructor
    · rintro ⟨rfl, hb⟩
      exact ⟨rfl, (Option.some.inj hb).symm⟩
    · rintro ⟨rfl, rfl⟩
      exact ⟨rfl, rfl⟩
  | ask q rest ih =>
    constructor
    · rintro (⟨-, -, hnone⟩ | ⟨x, es', rfl, h⟩)
      · cases hnone
      · exact ⟨x, es', rfl, (ih x).1 h⟩
    · rintro ⟨x, es', rfl, h⟩
      exact .inr ⟨x, es', rfl, (ih x).2 h⟩

/-- One task after the other is cut short in the first of them, or comes as far as the second does
after a course of the first. -/
theorem reaches_bind (t : Task α) (f : α → Task β) (es : List Turn) (r : Option β) :
    (t >>= f).Reaches es r ↔
      (r = none ∧ t.Reaches es none) ∨
        ∃ es₁ a es₂, es = es₁ ++ es₂ ∧ t.Course es₁ a ∧ (f a).Reaches es₂ r := by
  induction t generalizing es with
  | done a =>
    constructor
    · intro h
      exact .inr ⟨[], a, es, rfl, ⟨rfl, rfl⟩, h⟩
    · rintro (⟨-, -, hnone⟩ | ⟨es₁, a', es₂, rfl, ⟨rfl, rfl⟩, h⟩)
      · cases hnone
      · exact h
  | ask q rest ih =>
    constructor
    · rintro (⟨hwait, rfl, rfl⟩ | ⟨x, es', rfl, h⟩)
      · exact .inl ⟨rfl, .inl ⟨hwait, rfl, rfl⟩⟩
      · rcases (ih x es').1 h with ⟨rfl, hcut⟩ | ⟨es₁, a, es₂, rfl, h₁, h₂⟩
        · exact .inl ⟨rfl, .inr ⟨x, es', rfl, hcut⟩⟩
        · exact .inr ⟨⟨q, x⟩ :: es₁, a, es₂, rfl, ⟨x, es₁, rfl, h₁⟩, h₂⟩
    · rintro (⟨rfl, ⟨hwait, rfl, -⟩ | ⟨x, es', rfl, h⟩⟩ | ⟨es₁, a, es₂, rfl, ⟨x, es', rfl, h₁⟩, h₂⟩)
      · exact .inl ⟨hwait, rfl, rfl⟩
      · exact .inr ⟨x, es', rfl, (ih x _).2 (.inl ⟨rfl, h⟩)⟩
      · exact .inr ⟨x, es' ++ es₂, rfl, (ih x _).2 (.inr ⟨es', a, es₂, rfl, h₁, h₂⟩)⟩

/-! ## Deadlines -/

/-- What a task with a deadline does, where some spans were open before. -/
inductive Deadlined (t : Task α) (opened : List Span) : List Turn → Option α → Prop where
  | inTime {es es' : List Turn} {a : α} (h : t.Course es' a)
      (hes : List.Forall₂ Turn.Shortened es es') : Deadlined t opened es (some a)
  /-- It waits, and time runs out. -/
  | late {es es' : List Turn} {wait : Turn} (h : t.Reaches es' none)
      (hes : List.Forall₂ Turn.Shortened es es') (hwait : wait.query.isWait = true) :
      Deadlined t opened
        (es ++ wait :: abandoning (contexts (openAfter opened (spanEvents es)))) none

variable {opened : List Span}

theorem Deadlined.ask {q : Query} {rest : q.Answer → Task α} {e : Turn} {x : q.Answer}
    (h : (rest x).Deadlined (openAfter opened e.spanEvent?.toList) es r)
    (he : e.Shortened ⟨q, x⟩) : (ask q rest).Deadlined opened (e :: es) r := by
  cases h with
  | inTime h hes => exact .inTime ⟨x, _, rfl, h⟩ (.cons he hes)
  | @late es₁ es₂ wait h hes hwait =>
    have hreaches : (ask q rest).Reaches (⟨q, x⟩ :: es₂) none := .inr ⟨x, es₂, rfl, h⟩
    rw [← openAfter_append, ← spanEvents_cons]
    exact .late hreaches (.cons he hes) hwait

theorem course_abandon {cs : List SpanContext} :
    (do abandon cs; return none : Task (Option α)).Course es r ↔ es = abandoning cs ∧ r = none := by
  induction cs generalizing es with
  | nil => exact and_congr_right fun _ => eq_comm
  | cons c cs ih =>
    constructor
    · rintro ⟨x, es', rfl, h⟩
      obtain ⟨rfl, rfl⟩ := ih.1 h
      exact ⟨rfl, rfl⟩
    · rintro ⟨rfl, rfl⟩
      exact ⟨(), abandoning cs, rfl, ih.2 ⟨rfl, rfl⟩⟩

/-- Time runs out in a wait. -/
theorem deadlined_of_wait {q : Query} {rest : q.Answer → Task α} {e : Turn}
    (hq : q.isWait = true) (he : e.query.isWait = true)
    (h : (do abandon (contexts opened); return none : Task (Option α)).Course es r) :
    (ask q rest).Deadlined opened (e :: es) r := by
  obtain ⟨rfl, rfl⟩ := course_abandon.1 h
  have hreaches : (ask q rest).Reaches [] none := .inl ⟨hq, rfl, rfl⟩
  exact .late hreaches .nil he

theorem contexts_filter (opened : List Span) (c : SpanContext) :
    (contexts opened).filter (· != c) = contexts (opened.filter (·.context != c)) :=
  List.filter_map

/-- A task with a deadline comes to its end in time, or it is cut short and leaves no span open. -/
theorem deadlined_of_course {left : Nat} (h : (t.cutOff left (contexts opened)).Course es r) :
    t.Deadlined opened es r := by
  induction t generalizing left opened es with
  | done a =>
    obtain ⟨rfl, rfl⟩ := h
    exact .inTime ⟨rfl, rfl⟩ .nil
  | ask q rest ih =>
    -- the deadline shows in waits, and the spans that are open are counted along
    cases q
    case pause ms =>
      rw [cutOff] at h
      split at h
      · obtain ⟨x, es', rfl, h⟩ := h
        exact (ih () h).ask (.same _)
      · obtain ⟨x, es', rfl, h⟩ := h
        exact deadlined_of_wait rfl rfl h
    case backoff ms =>
      rw [cutOff] at h
      obtain ⟨wake, es', rfl, h⟩ := h
      cases wake with
      | cancelled after => exact (ih _ h).ask (.wait (Nat.min_le_left _ _))
      | elapsed =>
        dsimp only at h
        split at h
        · exact (ih _ h).ask (.wait (Nat.min_le_left _ _))
        · exact deadlined_of_wait rfl rfl h
    case startSpan s =>
      obtain ⟨c, es', rfl, h⟩ := h
      exact (ih c h).ask (.same _)
    case finishSpan c e =>
      obtain ⟨x, es', rfl, h⟩ := h
      rw [contexts_filter] at h
      exact (ih x h).ask (.same _)
    case abandonSpan c =>
      obtain ⟨x, es', rfl, h⟩ := h
      rw [contexts_filter] at h
      exact (ih x h).ask (.same _)
    all_goals
      obtain ⟨x, es', rfl, h⟩ := h
      exact (ih x h).ask (.same _)

end Task

/-- A shorter wait is nothing to spans. -/
theorem spanEvents_of_shortened {es es' : List Turn} (h : List.Forall₂ Turn.Shortened es es') :
    spanEvents es = spanEvents es' := by
  induction h with
  | nil => rfl
  | cons he _ ih =>
    rw [spanEvents_cons, spanEvents_cons, ih]
    cases he <;> rfl

theorem spanEvents_abandoning (cs : List SpanContext) :
    spanEvents (abandoning cs) = cs.map fun c => .ends c .abandoned := by
  induction cs with
  | nil => rfl
  | cons c cs ih => exact congrArg (SpanEvent.ends c .abandoned :: ·) ih

/-! ## Spans of one's own -/

namespace Task

variable {α β : Type} {P : List SpanContext → α → Prop} {mine : List SpanContext} {t : Task α}

/-- A task that ends only spans it has begun and those that are its own already. `P` holds of what
it ends with, together with all that are its own then. -/
def EndsOwn (P : List SpanContext → α → Prop) : (mine : List SpanContext) → Task α → Prop
  | mine, done a => P mine a
  | mine, ask q rest =>
    match q, rest with
    | .startSpan _, rest => ∀ c, EndsOwn P (c :: mine) (rest c)
    | .finishSpan c _, rest => c ∈ mine ∧ ∀ x, EndsOwn P mine (rest x)
    | .abandonSpan c, rest => c ∈ mine ∧ ∀ x, EndsOwn P mine (rest x)
    | _, rest => ∀ x, EndsOwn P mine (rest x)

/-- The contexts are of spans that were there or begin in some turns. -/
def Among (mine : List SpanContext) (es : List Turn) (cs : List SpanContext) : Prop :=
  ∀ c ∈ cs, c ∈ mine ∨ c ∈ contexts (begun (spanEvents es))

theorem Among.begins {start : SpanStart} {c : SpanContext} {es : List Turn}
    {cs : List SpanContext} (h : Among (c :: mine) es cs) :
    Among mine (⟨.startSpan start, c⟩ :: es) cs := by
  intro c' hc'
  rcases h c' hc' with hmine | hbegun
  · rcases List.mem_cons.1 hmine with rfl | hmine
    · exact .inr List.mem_cons_self
    · exact .inl hmine
  · exact .inr (List.mem_cons_of_mem _ hbegun)

/-- However far it comes, it has ended no other spans. -/
theorem EndsOwn.of_reaches {es : List Turn} {r : Option α} (h : t.EndsOwn P mine)
    (hr : t.Reaches es r) :
    Among mine es (ended (spanEvents es)) ∧
      ∀ a, r = some a → ∃ all, P all a ∧ Among mine es all := by
  induction t generalizing es mine with
  | done b =>
    obtain ⟨rfl, rfl⟩ := hr
    refine ⟨by simp [Among, ended], ?_⟩
    rintro a ⟨⟩
    exact ⟨mine, h, fun c hc => .inl hc⟩
  | ask q rest ih =>
    rcases hr with ⟨-, rfl, rfl⟩ | ⟨x, es', rfl, hr⟩
    · exact ⟨by simp [Among, ended], by simp⟩
    · cases q
      case startSpan s =>
        -- the span that begins is its own from now on
        obtain ⟨hended, hP⟩ := ih x (h x) hr
        refine ⟨hended.begins, fun a ha => ?_⟩
        obtain ⟨all, hall, hwithin⟩ := hP a ha
        exact ⟨all, hall, hwithin.begins⟩
      case finishSpan c e =>
        obtain ⟨hended, hP⟩ := ih x (h.2 x) hr
        exact ⟨List.forall_mem_cons.2 ⟨.inl h.1, hended⟩, hP⟩
      case abandonSpan c =>
        obtain ⟨hended, hP⟩ := ih x (h.2 x) hr
        exact ⟨List.forall_mem_cons.2 ⟨.inl h.1, hended⟩, hP⟩
      all_goals
        have hrest := ih x (h x) hr
        exact hrest

/-! ## Nothing about spans -/

/-- A task that asks nothing about spans. -/
def Spanless : Task α → Prop
  | done _ => True
  | ask q rest => q.isSpan = false ∧ ∀ x, (rest x).Spanless

theorem Spanless.bind {f : α → Task β} (h : t.Spanless) (hf : ∀ a, (f a).Spanless) :
    (t >>= f).Spanless := by
  induction t with
  | done a => exact hf a
  | ask q rest ih => exact ⟨h.1, fun x => ih x (h.2 x)⟩

theorem Spanless.spanEvents_eq {es : List Turn} {a : α} (h : t.Spanless) (hc : t.Course es a) :
    spanEvents es = [] := by
  induction t generalizing es with
  | done b =>
    obtain ⟨rfl, -⟩ := hc
    rfl
  | ask q rest ih =>
    obtain ⟨x, es', rfl, hc⟩ := hc
    have hfirst : Turn.spanEvent? ⟨q, x⟩ = none := by
      cases q
      case startSpan | finishSpan | abandonSpan => cases h.1
      all_goals rfl
    rw [spanEvents_cons, hfirst, ih x (h.2 x) hc]
    rfl

theorem Spanless.endsOwn {P : List SpanContext → α → Prop} {mine : List SpanContext}
    (h : t.Spanless) (hP : ∀ es a, t.Course es a → P mine a) : t.EndsOwn P mine := by
  induction t with
  | done a => exact hP [] a ⟨rfl, rfl⟩
  | ask q rest ih =>
    have hrest (x : q.Answer) : (rest x).EndsOwn P mine :=
      ih x (h.2 x) fun es a hc => hP (⟨q, x⟩ :: es) a ⟨x, es, rfl, hc⟩
    cases q
    case startSpan | finishSpan | abandonSpan => cases h.1
    all_goals exact hrest

end Task

end MessageBus
