import Mathlib.Data.List.Nodup
import MessageBus.Proofs.Task.Course
import MessageBus.Proofs.Tracing.Context

/-!
# Accounts of spans

Spans begin and end in the turns of a course. `openAfter` says which spans are open after some
events, and `reports` which ones were reported and how; a recorder has the same answers
(`recorder_play`). Where no two spans have the same context, every span that was open before or
begins is either open after or is reported, once (`perm_reports`). Events that end none of the spans
that were open before leave these alone (`openAfter_append_spans`, `reports_append_spans`).
-/

set_option autoImplicit false

namespace MessageBus

open scoped List

/-- A span when it begins. -/
def Span.begun (start : SpanStart) (context : SpanContext) : Span := ⟨start, context, .unset, []⟩

/-- How a span is ended. -/
inductive Ending where
  /-- With the outcome of its work. -/
  | finished (error : Option BusError)
  /-- Its work is abandoned. -/
  | abandoned

/-- What is reported of a span that is ended so. -/
def Ending.of (s : Span) : Ending → Span
  | finished e => s.finished e
  | abandoned => s

@[simp] theorem Ending.context_of (s : Span) (ending : Ending) :
    (ending.of s).context = s.context := by
  cases ending with
  | finished e => cases e <;> rfl
  | abandoned => rfl

/-- What happens to spans. -/
inductive SpanEvent where
  | begins (start : SpanStart) (context : SpanContext)
  | ends (context : SpanContext) (ending : Ending)

/-- What happens to spans in a turn. -/
def Turn.spanEvent? : Turn → Option SpanEvent
  | ⟨.startSpan s, c⟩ => some (.begins s c)
  | ⟨.finishSpan c e, _⟩ => some (.ends c (.finished e))
  | ⟨.abandonSpan c, _⟩ => some (.ends c .abandoned)
  | _ => none

/-- What happens to spans in some turns. -/
def spanEvents (es : List Turn) : List SpanEvent := es.filterMap Turn.spanEvent?

@[simp] theorem spanEvents_nil : spanEvents [] = [] := rfl

theorem spanEvents_cons (e : Turn) (es : List Turn) :
    spanEvents (e :: es) = e.spanEvent?.toList ++ spanEvents es := by
  rw [spanEvents, List.filterMap_cons]
  cases e.spanEvent? <;> rfl

@[simp] theorem spanEvents_append (es es' : List Turn) :
    spanEvents (es ++ es') = spanEvents es ++ spanEvents es' :=
  List.filterMap_append

namespace SpanEvent

/-- The span that begins. -/
def begun? : SpanEvent → Option Span
  | begins s c => some (.begun s c)
  | ends _ _ => none

/-- The context of the span that is ended. -/
def ended? : SpanEvent → Option SpanContext
  | begins _ _ => none
  | ends c _ => some c

/-- The context of the span it happens to. -/
def context : SpanEvent → SpanContext
  | begins _ c | ends c _ => c

end SpanEvent

/-- The contexts of some spans. -/
def contexts (spans : List Span) : List SpanContext := spans.map Span.context

/-- The spans that begin. -/
def begun (vs : List SpanEvent) : List Span := vs.filterMap SpanEvent.begun?

/-- The contexts of the spans that are ended. -/
def ended (vs : List SpanEvent) : List SpanContext := vs.filterMap SpanEvent.ended?

/-- The spans that are open after some events. -/
def openAfter : (opened : List Span) → List SpanEvent → List Span
  | opened, [] => opened
  | opened, .begins s c :: vs => openAfter (.begun s c :: opened) vs
  | opened, .ends c _ :: vs => openAfter (opened.filter (·.context != c)) vs

/-- The spans that are reported, in order; what ends no open span reports none. -/
def reports : (opened : List Span) → List SpanEvent → List Span
  | _, [] => []
  | opened, .begins s c :: vs => reports (.begun s c :: opened) vs
  | opened, .ends c ending :: vs =>
    ((opened.find? (·.context == c)).map ending.of).toList ++
      reports (opened.filter (·.context != c)) vs

/-- What happens to the spans of some contexts. -/
def about (cs : List SpanContext) (vs : List SpanEvent) : List SpanEvent :=
  vs.filter fun v => v.context ∈ cs

variable {vs vs' : List SpanEvent} {opened spans : List Span} {c : SpanContext}

@[simp] theorem contexts_append (spans spans' : List Span) :
    contexts (spans ++ spans') = contexts spans ++ contexts spans' :=
  List.map_append

theorem mem_contexts {s : Span} (h : s ∈ spans) : s.context ∈ contexts spans :=
  List.mem_map_of_mem h

/-- No span is taken out where none has the context, ... -/
theorem filter_of_not_mem (h : c ∉ contexts spans) : spans.filter (·.context != c) = spans := by
  refine List.filter_eq_self.2 fun s hs => ?_
  rw [bne_iff_ne]
  rintro rfl
  exact h (mem_contexts hs)

/-- ... and none is found. -/
theorem find?_of_not_mem (h : c ∉ contexts spans) : spans.find? (·.context == c) = none := by
  refine List.find?_eq_none.2 fun s hs => ?_
  rw [beq_iff_eq]
  rintro rfl
  exact h (mem_contexts hs)

@[simp] theorem begun_append (vs vs' : List SpanEvent) :
    begun (vs ++ vs') = begun vs ++ begun vs' :=
  List.filterMap_append

@[simp] theorem ended_append (vs vs' : List SpanEvent) :
    ended (vs ++ vs') = ended vs ++ ended vs' :=
  List.filterMap_append

@[simp] theorem begun_begins (s : SpanStart) (c : SpanContext) (vs : List SpanEvent) :
    begun (.begins s c :: vs) = .begun s c :: begun vs := rfl

@[simp] theorem begun_ends (c : SpanContext) (ending : Ending) (vs : List SpanEvent) :
    begun (.ends c ending :: vs) = begun vs := rfl

@[simp] theorem ended_begins (s : SpanStart) (c : SpanContext) (vs : List SpanEvent) :
    ended (.begins s c :: vs) = ended vs := rfl

@[simp] theorem ended_ends (c : SpanContext) (ending : Ending) (vs : List SpanEvent) :
    ended (.ends c ending :: vs) = c :: ended vs := rfl

/-! ## One part of a course after the other -/

theorem openAfter_append (opened : List Span) (vs vs' : List SpanEvent) :
    openAfter opened (vs ++ vs') = openAfter (openAfter opened vs) vs' := by
  induction vs generalizing opened with
  | nil => rfl
  | cons v vs ih =>
    cases v with
    | begins s c => exact ih _
    | ends c ending => exact ih _

theorem reports_append (opened : List Span) (vs vs' : List SpanEvent) :
    reports opened (vs ++ vs') = reports opened vs ++ reports (openAfter opened vs) vs' := by
  induction vs generalizing opened with
  | nil => rfl
  | cons v vs ih =>
    cases v with
    | begins s c => exact ih _
    | ends c ending =>
      rw [List.cons_append, reports, reports, ih, openAfter, List.append_assoc]

/-- The events end none of the spans. -/
def Spares (vs : List SpanEvent) (spans : List Span) : Prop :=
  ∀ c ∈ ended vs, c ∉ contexts spans

/-- Spans that are not ended stay open, behind those that were opened later. -/
theorem openAfter_append_spans (h : Spares vs spans) (opened : List Span) :
    openAfter (opened ++ spans) vs = openAfter opened vs ++ spans := by
  induction vs generalizing opened with
  | nil => rfl
  | cons v vs ih =>
    cases v with
    | begins s c => exact ih h (.begun s c :: opened)
    | ends c ending =>
      rw [openAfter, openAfter, List.filter_append, filter_of_not_mem (h c List.mem_cons_self)]
      exact ih (fun c' hc' => h c' (List.mem_cons_of_mem _ hc')) _

/-- They have no part in what is reported. -/
theorem reports_append_spans (h : Spares vs spans) (opened : List Span) :
    reports (opened ++ spans) vs = reports opened vs := by
  induction vs generalizing opened with
  | nil => rfl
  | cons v vs ih =>
    cases v with
    | begins s c => exact ih h (.begun s c :: opened)
    | ends c ending =>
      have hc : c ∉ contexts spans := h c List.mem_cons_self
      rw [reports, reports, List.filter_append, filter_of_not_mem hc, List.find?_append,
        find?_of_not_mem hc, Option.or_none, ih fun c' hc' => h c' (List.mem_cons_of_mem _ hc')]

/-- A span that is open after some events was open before or has begun. -/
theorem mem_of_mem_openAfter {s : Span} (h : s ∈ openAfter opened vs) :
    s ∈ opened ∨ s ∈ begun vs := by
  induction vs generalizing opened with
  | nil => exact .inl h
  | cons v vs ih =>
    cases v with
    | begins start c =>
      rcases ih h with hs | hs
      · rcases List.mem_cons.1 hs with rfl | hs
        · exact .inr List.mem_cons_self
        · exact .inl hs
      · exact .inr (List.mem_cons_of_mem _ hs)
    | ends c ending =>
      rcases ih h with hs | hs
      · exact .inl ((List.mem_filter.1 hs).1)
      · exact .inr hs

theorem mem_begun_of_openAfter {s : Span} (h : s ∈ openAfter [] vs) : s ∈ begun vs :=
  (mem_of_mem_openAfter h).resolve_left List.not_mem_nil

/-! ## Some spans among others -/

theorem about_cons (cs : List SpanContext) (v : SpanEvent) (vs : List SpanEvent) :
    about cs (v :: vs) = if v.context ∈ cs then v :: about cs vs else about cs vs := by
  simp [about, List.filter_cons]

theorem begun_about (cs : List SpanContext) (vs : List SpanEvent) :
    begun (about cs vs) = (begun vs).filter (·.context ∈ cs) := by
  induction vs with
  | nil => rfl
  | cons v vs ih =>
    rw [about_cons]
    cases v with
    | begins s c =>
      rw [begun_begins, List.filter_cons]
      by_cases hc : c ∈ cs
      all_goals simp [SpanEvent.context, Span.begun, hc, ← ih]
    | ends c ending =>
      rw [begun_ends]
      split
      · exact ih
      · exact ih

/-- What is reported of some spans depends on nothing that happens to others. -/
theorem reports_about (cs : List SpanContext) (opened : List Span) (vs : List SpanEvent) :
    (reports opened vs).filter (·.context ∈ cs) =
      reports (opened.filter (·.context ∈ cs)) (about cs vs) := by
  induction vs generalizing opened with
  | nil => rfl
  | cons v vs ih =>
    rw [about_cons]
    cases v with
    | begins s c =>
      rw [reports, ih, List.filter_cons]
      by_cases hc : c ∈ cs
      · simp [SpanEvent.context, Span.begun, hc, reports]
      · simp [SpanEvent.context, Span.begun, hc]
    | ends c ending =>
      have hcontext : ∀ s ∈ ((opened.find? (·.context == c)).map ending.of).toList,
          s.context = c := by
        intro s hs
        obtain ⟨s', hs', rfl⟩ := Option.map_eq_some_iff.1 (Option.mem_toList.1 hs)
        simpa using List.find?_some hs'
      rw [reports, List.filter_append, ih, List.filter_filter, SpanEvent.context]
      by_cases hc : c ∈ cs
      · have hreport : ((opened.find? (·.context == c)).map ending.of).toList.filter
            (·.context ∈ cs) = ((opened.find? (·.context == c)).map ending.of).toList :=
          List.filter_eq_self.2 fun s hs => by simpa [hcontext s hs] using hc
        have hfound : (opened.filter (·.context ∈ cs)).find? (·.context == c) =
            opened.find? (·.context == c) := by
          rw [List.find?_filter]
          congr 1
          funext s
          grind
        rw [if_pos hc, reports, hfound, hreport, List.filter_filter]
        simp only [Bool.and_comm]
      · have hreport : ((opened.find? (·.context == c)).map ending.of).toList.filter
            (·.context ∈ cs) = [] :=
          List.filter_eq_nil_iff.2 fun s hs => by simpa [hcontext s hs] using hc
        have hothers : opened.filter (fun s => decide (s.context ∈ cs) && s.context != c) =
            opened.filter (·.context ∈ cs) :=
          List.filter_congr fun s _ => by grind
        rw [if_neg hc, hreport, hothers, List.nil_append]

/-! ## Once each -/

theorem perm_find?_filter (h : (contexts opened).Nodup) (ending : Ending) :
    contexts (((opened.find? (·.context == c)).map ending.of).toList ++
      opened.filter (·.context != c)) ~ contexts opened := by
  induction opened with
  | nil => exact .nil
  | cons s opened ih =>
    obtain ⟨hs, hrest⟩ := List.nodup_cons.1 h
    by_cases hc : s.context = c
    · -- no other span has its context
      have hkept := filter_of_not_mem (hc ▸ hs)
      simp [hc, hkept, contexts]
    · have hih := ih hrest
      simp only [contexts, List.find?_cons, beq_eq_false_iff_ne.2 hc, List.filter_cons,
        bne_iff_ne.2 hc, if_true, List.map_append, List.map_cons] at hih ⊢
      exact List.perm_middle.trans (hih.cons _)

/-- Every span that was open before or begins is either open after or is reported, and no span is
both or reported twice. -/
theorem perm_reports (h : (contexts (opened ++ begun vs)).Nodup) :
    contexts (openAfter opened vs ++ reports opened vs) ~ contexts (opened ++ begun vs) := by
  induction vs generalizing opened with
  | nil => simp [openAfter, reports, begun]
  | cons v vs ih =>
    cases v with
    | begins s c =>
      have hmiddle : contexts (.begun s c :: opened ++ begun vs) ~
          contexts (opened ++ begun (.begins s c :: vs)) := (List.perm_middle.symm).map _
      exact (ih (hmiddle.nodup_iff.2 h)).trans hmiddle
    | ends c ending =>
      rw [begun_ends, contexts_append] at h ⊢
      have hfirst := perm_find?_filter (c := c) h.of_append_left ending
      have hnodup := (hfirst.append_right (contexts (begun vs))).nodup_iff.2 h
      rw [contexts_append, List.append_assoc] at hnodup
      have hrest := ih (by rw [contexts_append]; exact hnodup.of_append_right)
      rw [openAfter, reports]
      simp only [contexts_append] at hfirst hrest ⊢
      calc contexts (openAfter (opened.filter (·.context != c)) vs) ++
            (contexts ((opened.find? (·.context == c)).map ending.of).toList ++
              contexts (reports (opened.filter (·.context != c)) vs))
        _ ~ contexts ((opened.find? (·.context == c)).map ending.of).toList ++
              (contexts (openAfter (opened.filter (·.context != c)) vs) ++
                contexts (reports (opened.filter (·.context != c)) vs)) :=
            List.perm_append_comm_assoc _ _ _
        _ ~ contexts ((opened.find? (·.context == c)).map ending.of).toList ++
              (contexts (opened.filter (·.context != c)) ++ contexts (begun vs)) :=
            hrest.append_left _
        _ ~ contexts opened ++ contexts (begun vs) := by
            rw [← List.append_assoc]
            exact hfirst.append_right _

/-! ## Parts that keep to their own spans -/

/-- Only spans that begin in the events are ended in them. -/
def KeepsOwn (vs : List SpanEvent) : Prop := ∀ c ∈ ended vs, c ∈ contexts (begun vs)

theorem KeepsOwn.append (h : KeepsOwn vs) (h' : KeepsOwn vs') : KeepsOwn (vs ++ vs') := by
  intro c hc
  rw [begun_append, contexts_append, List.mem_append]
  rw [ended_append, List.mem_append] at hc
  exact hc.imp (h c) (h' c)

/-- What keeps to its own spans has nothing to do with those that begin before it. -/
theorem KeepsOwn.spares (h : KeepsOwn vs') (hn : (contexts (begun (vs ++ vs'))).Nodup) :
    Spares vs' (openAfter [] vs) := by
  intro c hc hopen
  rw [begun_append, contexts_append] at hn
  obtain ⟨s, hs, rfl⟩ := List.mem_map.1 hopen
  exact List.disjoint_of_nodup_append hn (mem_contexts (mem_begun_of_openAfter hs)) (h _ hc)

theorem KeepsOwn.openAfter_append (h : KeepsOwn vs')
    (hn : (contexts (begun (vs ++ vs'))).Nodup) :
    openAfter [] (vs ++ vs') = openAfter [] vs' ++ openAfter [] vs := by
  have hspared := openAfter_append_spans (h.spares hn) []
  rwa [List.nil_append, ← MessageBus.openAfter_append] at hspared

theorem KeepsOwn.reports_append (h : KeepsOwn vs') (hn : (contexts (begun (vs ++ vs'))).Nodup) :
    reports [] (vs ++ vs') = reports [] vs ++ reports [] vs' := by
  have hspared := reports_append_spans (h.spares hn) []
  rw [List.nil_append] at hspared
  rw [MessageBus.reports_append, hspared]

/-- A span with the outcome of its work, if that came to its end. -/
def Span.outcome (s : Span) : Option Outcome → Span
  | some result => s.finished (Outcome.error? result)
  | none => s

/-- A span was reported, with the outcome of its work. -/
def Reported (vs : List SpanEvent) (s : Span) (r : Option Outcome) : Prop :=
  s.outcome r ∈ reports [] vs

theorem Reported.after {s : Span} {r : Option Outcome} (h : Reported vs' s r)
    (hown : KeepsOwn vs') (hn : (contexts (begun (vs ++ vs'))).Nodup) :
    Reported (vs ++ vs') s r := by
  rw [Reported, hown.reports_append hn]
  exact List.mem_append_right _ h

theorem Reported.before {s : Span} {r : Option Outcome} (h : Reported vs s r)
    (vs' : List SpanEvent) : Reported (vs ++ vs') s r := by
  rw [Reported, reports_append]
  exact List.mem_append_left _ h

/-- What has become of a span: it was reported with the result of its work, or it is still open
where its work has no result. -/
def Became (vs : List SpanEvent) (s : Span) : Option Outcome → Prop
  | some result => Reported vs s (some result)
  | none => s ∈ openAfter [] vs

theorem Became.after {s : Span} {r : Option Outcome} (h : Became vs' s r) (hown : KeepsOwn vs')
    (hn : (contexts (begun (vs ++ vs'))).Nodup) : Became (vs ++ vs') s r := by
  cases r with
  | some result =>
    have hreported : Reported vs' s (some result) := h
    exact hreported.after hown hn
  | none =>
    have hmem : s ∈ openAfter [] (vs ++ vs') := by
      rw [hown.openAfter_append hn]
      exact List.mem_append_left _ h
    exact hmem

theorem Became.reported {s : Span} {r : Option Outcome} (h : Became vs s r)
    (hr : r.isSome = true) : Reported vs s r := by
  obtain ⟨result, rfl⟩ := Option.isSome_iff_exists.1 hr
  exact h

/-- A span whose work has a result stays reported, whatever comes after. -/
theorem Became.before {s : Span} {r : Option Outcome} (h : Became vs s r) (hr : r.isSome = true)
    (vs' : List SpanEvent) : Became (vs ++ vs') s r := by
  obtain ⟨result, rfl⟩ := Option.isSome_iff_exists.1 hr
  have hreported : Reported vs s (some result) := h
  exact hreported.before vs'

/-- The spans that are open, abandoned one by one. -/
def abandonments (spans : List Span) : List SpanEvent :=
  spans.map fun s => .ends s.context .abandoned

theorem begun_abandonments (vs : List SpanEvent) (spans : List Span) :
    begun (vs ++ abandonments spans) = begun vs := by
  have hnone : begun (abandonments spans) = [] := by
    simp [abandonments, begun, SpanEvent.begun?]
  rw [begun_append, hnone, List.append_nil]

theorem ended_abandonments (spans : List Span) : ended (abandonments spans) = contexts spans := by
  induction spans with
  | nil => rfl
  | cons s spans ih => exact congrArg (s.context :: ·) ih

/-- What keeps to its own spans may abandon those that are open. -/
theorem KeepsOwn.abandonments (h : KeepsOwn vs) :
    KeepsOwn (vs ++ abandonments (openAfter [] vs)) := by
  intro c hc
  rw [begun_abandonments]
  rw [ended_append, ended_abandonments, List.mem_append] at hc
  rcases hc with hc | hc
  · exact h c hc
  · obtain ⟨s, hs, rfl⟩ := List.mem_map.1 hc
    exact mem_contexts (mem_begun_of_openAfter hs)

theorem reports_abandonments (h : (contexts spans).Nodup) :
    reports spans (abandonments spans) = spans ∧ openAfter spans (abandonments spans) = [] := by
  induction spans with
  | nil => exact ⟨rfl, rfl⟩
  | cons s spans ih =>
    obtain ⟨hs, hrest⟩ := List.nodup_cons.1 h
    have hrest' : (s :: spans).filter (·.context != s.context) = spans := by
      simpa using filter_of_not_mem hs
    have hfound : (s :: spans).find? (·.context == s.context) = some s := by simp
    obtain ⟨hreports, hopen⟩ := ih hrest
    constructor
    · rw [abandonments, List.map_cons, reports, hrest', hfound]
      exact congrArg (s :: ·) hreports
    · rw [abandonments, List.map_cons, openAfter, hrest']
      exact hopen

/-- Where all that is open is abandoned every span has been reported. -/
theorem abandoned_all (hn : (contexts (begun vs)).Nodup) :
    openAfter [] (vs ++ abandonments (openAfter [] vs)) = [] ∧
      ∀ s r, Became vs s r → Reported (vs ++ abandonments (openAfter [] vs)) s r := by
  have hdistinct : (contexts (openAfter [] vs)).Nodup := by
    have hperm : contexts (openAfter [] vs ++ reports [] vs) ~ contexts (begun vs) :=
      perm_reports hn
    have hboth := hperm.nodup_iff.2 hn
    rw [contexts_append] at hboth
    exact hboth.of_append_left
  obtain ⟨hreports, hopen⟩ := reports_abandonments hdistinct
  refine ⟨by rw [openAfter_append, hopen], fun s r h => ?_⟩
  cases r with
  | some result => exact (h.reported rfl).before _
  | none =>
    rw [Reported, reports_append, hreports]
    exact List.mem_append_right _ h

/-- A span is open around work that keeps to its own spans, ... -/
theorem openAfter_around {start : SpanStart} (hown : KeepsOwn vs)
    (hn : (contexts (begun (.begins start c :: vs))).Nodup) :
    openAfter [] (.begins start c :: vs) = openAfter [] vs ++ [.begun start c] :=
  @KeepsOwn.openAfter_append [.begins start c] vs hown hn

/-- ... and can be ended then. -/
theorem reports_around {start : SpanStart} (hown : KeepsOwn vs)
    (hn : (contexts (begun (.begins start c :: vs))).Nodup) (ending : Ending) :
    reports [] (.begins start c :: vs ++ [.ends c ending]) =
      reports [] vs ++ [ending.of (.begun start c)] ∧
    openAfter [] (.begins start c :: vs ++ [.ends c ending]) = openAfter [] vs := by
  have hc : c ∉ contexts (openAfter [] vs) := by
    intro hopen
    obtain ⟨s, hs, rfl⟩ := List.mem_map.1 hopen
    have hmem : s.context ∈ contexts (begun vs) := mem_contexts (mem_begun_of_openAfter hs)
    exact (List.nodup_cons.1 hn).1 hmem
  constructor
  · have hinside : reports [] (.begins start c :: vs) = reports [] vs :=
      @KeepsOwn.reports_append [.begins start c] vs hown hn
    rw [reports_append, hinside, openAfter_around hown hn, reports, reports, List.find?_append,
      find?_of_not_mem hc]
    simp [Span.begun]
  · rw [openAfter_append, openAfter_around hown hn, openAfter, openAfter, List.filter_append,
      filter_of_not_mem hc]
    simp [Span.begun]

theorem begun_around (start : SpanStart) (c : SpanContext) (vs : List SpanEvent)
    (ending : Ending) :
    begun (.begins start c :: vs ++ [.ends c ending]) = .begun start c :: begun vs := by
  rw [begun_append, begun_begins]
  exact List.append_nil _

/-- The span around is reported last, no span is reported twice, and each one is if none is left
open inside. -/
theorem once_around {start : SpanStart} {ending : Ending} (hown : KeepsOwn vs)
    (hn : (contexts (begun (.begins start c :: vs ++ [.ends c ending]))).Nodup) :
    (contexts (reports [] (.begins start c :: vs ++ [.ends c ending]))).Nodup ∧
    (openAfter [] vs = [] → contexts (reports [] (.begins start c :: vs ++ [.ends c ending])) ~
      contexts (begun (.begins start c :: vs ++ [.ends c ending]))) ∧
    (reports [] (.begins start c :: vs ++ [.ends c ending])).getLast? =
      some (ending.of (.begun start c)) := by
  have hall : contexts (openAfter [] (.begins start c :: vs ++ [.ends c ending]) ++
      reports [] (.begins start c :: vs ++ [.ends c ending])) ~
        contexts (begun (.begins start c :: vs ++ [.ends c ending])) := perm_reports hn
  have hinside : (contexts (begun (.begins start c :: vs))).Nodup := by
    rwa [begun_around] at hn
  obtain ⟨hreports, hopen⟩ := reports_around hown hinside ending
  refine ⟨?_, fun hclosed => ?_, ?_⟩
  · have hboth := hall.nodup_iff.2 hn
    rw [contexts_append] at hboth
    exact hboth.of_append_right
  · rwa [hopen, hclosed, List.nil_append] at hall
  · rw [hreports, List.getLast?_concat]

theorem KeepsOwn.around {start : SpanStart} {ending : Ending} (hown : KeepsOwn vs) :
    KeepsOwn (.begins start c :: vs ++ [.ends c ending]) := by
  intro c' hc'
  rw [begun_around]
  rw [ended_append, List.mem_append] at hc'
  rcases hc' with hc' | hc'
  · exact List.mem_cons_of_mem _ (hown c' hc')
  · obtain rfl := List.mem_singleton.1 hc'
    exact List.mem_cons_self

/-! ## Recorders -/

namespace SpanRecorder

/-- The spans that are open have the numbers of spans that have begun. -/
def Numbered (r : SpanRecorder) : Prop := ∀ s ∈ r.opened, s.context.span ≤ r.spans

/-- A recorder before and after some events. -/
structure Account (r : SpanRecorder) (vs : List SpanEvent) (r' : SpanRecorder) : Prop where
  opened : r'.opened = openAfter r.opened vs
  ended : r'.ended = r.ended ++ reports r.opened vs
  /-- Spans that begin have numbers of their own. -/
  spans : r.spans ≤ r'.spans
  numbers : ∀ s ∈ begun vs, r.spans < s.context.span ∧ s.context.span ≤ r'.spans
  distinct : (contexts (begun vs)).Nodup
  traces : r.traces ≤ r'.traces
  /-- While the numbers fit, each span has a context like that of its parent. -/
  yields : r'.Fits → ∀ s ∈ begun vs, s.start.Yields s.context

variable {r r' r'' : SpanRecorder}

theorem account_refl (r : SpanRecorder) : Account r [] r where
  opened := rfl
  ended := (List.append_nil _).symm
  spans := Nat.le_refl _
  numbers := by simp [begun]
  distinct := List.nodup_nil
  traces := Nat.le_refl _
  yields _ := by simp [begun]

theorem Account.trans (h : Account r vs r') (h' : Account r' vs' r'') :
    Account r (vs ++ vs') r'' where
  opened := by rw [h'.opened, h.opened, openAfter_append]
  ended := by rw [h'.ended, h.ended, h.opened, reports_append, List.append_assoc]
  spans := Nat.le_trans h.spans h'.spans
  numbers s hs := by
    have hle := h.spans
    have hle' := h'.spans
    rw [begun_append, List.mem_append] at hs
    rcases hs with hs | hs
    · have hnumber := h.numbers s hs
      omega
    · have hnumber := h'.numbers s hs
      omega
  distinct := by
    rw [begun_append, contexts_append]
    refine List.nodup_append'.2 ⟨h.distinct, h'.distinct, fun c hc hc' => ?_⟩
    obtain ⟨s, hs, rfl⟩ := List.mem_map.1 hc
    obtain ⟨s', hs', hsame⟩ := List.mem_map.1 hc'
    have hnumber := (h.numbers s hs).2
    have hnumber' := (h'.numbers s' hs').1
    rw [hsame] at hnumber'
    omega
  traces := Nat.le_trans h.traces h'.traces
  yields hfits s hs := by
    have hfits' : r'.Fits :=
      ⟨Nat.lt_of_le_of_lt h'.spans hfits.spans, Nat.lt_of_le_of_lt h'.traces hfits.traces⟩
    rw [begun_append, List.mem_append] at hs
    exact hs.elim (h.yields hfits' s) (h'.yields hfits s)

theorem account_start (r : SpanRecorder) (s : SpanStart) :
    Account r [.begins s (r.start s).2] (r.start s).1 := by
  have hnumber : (r.start s).2.span = r.spans + 1 := by
    unfold start
    cases s.parent <;> rfl
  have hspans : (r.start s).1.spans = r.spans + 1 := rfl
  have htraces : r.traces ≤ (r.start s).1.traces := by
    unfold start
    cases s.parent with
    | none => exact Nat.le_succ _
    | some parent => exact Nat.le_refl _
  refine ⟨rfl, (List.append_nil _).symm, by omega, ?_, List.nodup_singleton _, htraces,
    fun hfits => ?_⟩
  · refine List.forall_mem_singleton.2 ?_
    show r.spans < (r.start s).2.span ∧ (r.start s).2.span ≤ (r.start s).1.spans
    omega
  · exact List.forall_mem_singleton.2 (yields_start hfits)

theorem account_close (r : SpanRecorder) (c : SpanContext) (ending : Ending) :
    Account r [.ends c ending] (r.close c ending.of) := by
  unfold close
  cases hfound : r.opened.find? (·.context == c) with
  | none =>
    have hc : c ∉ contexts r.opened := by
      intro hopen
      obtain ⟨s, hs, rfl⟩ := List.mem_map.1 hopen
      simpa using List.find?_eq_none.1 hfound s hs
    refine ⟨(filter_of_not_mem hc).symm, ?_, Nat.le_refl _, by simp [begun, SpanEvent.begun?],
      List.nodup_nil, Nat.le_refl _, by simp [begun, SpanEvent.begun?]⟩
    simp [reports, hfound]
  | some s =>
    refine ⟨rfl, ?_, Nat.le_refl _, by simp [begun, SpanEvent.begun?], List.nodup_nil,
      Nat.le_refl _, by simp [begun, SpanEvent.begun?]⟩
    simp [reports, hfound]

/-- What keeps to its own spans spares those that were open in a recorder. -/
theorem Account.spares (h : Account r vs r') (hnumbered : r.Numbered) (hown : KeepsOwn vs) :
    Spares vs r.opened := by
  intro c hc hopen
  obtain ⟨s, hs, rfl⟩ := List.mem_map.1 hopen
  obtain ⟨s', hs', hsame⟩ := List.mem_map.1 (hown _ hc)
  have hnumber := (h.numbers s' hs').1
  have hle := hnumbered s hs
  rw [hsame] at hnumber
  omega

/-- Among everything a recorder does for others, what it reports of some spans is all that happens
to them. -/
theorem Account.about {mine : List SpanEvent} (h : Account r vs r') (hnumbered : r.Numbered)
    (hmine : MessageBus.about (contexts (begun mine)) vs = mine) :
    (contexts (begun mine)).Nodup ∧ ∃ reported, r'.ended = r.ended ++ reported ∧
      reported.filter (·.context ∈ contexts (begun mine)) = reports [] mine := by
  have hbegun : begun mine = (begun vs).filter (·.context ∈ contexts (begun mine)) := by
    rw [← begun_about, hmine]
  have hsub : (contexts (begun mine)).Sublist (contexts (begun vs)) := by
    rw [hbegun]
    exact List.filter_sublist.map _
  have hnone : r.opened.filter (·.context ∈ contexts (begun mine)) = [] := by
    refine List.filter_eq_nil_iff.2 fun s hs => ?_
    rw [decide_eq_true_eq]
    intro hc
    obtain ⟨s', hs', hsame⟩ := List.mem_map.1 (hsub.subset hc)
    have hnumber := (h.numbers s' hs').1
    have hle := hnumbered s hs
    rw [hsame] at hnumber
    omega
  refine ⟨hsub.nodup h.distinct, _, h.ended, ?_⟩
  rw [reports_about, hnone, hmine]

/-- The numbering is kept, so every recorder has it that began with no spans. -/
theorem Account.numbered (h : Account r vs r') (hnumbered : r.Numbered) : r'.Numbered := by
  intro s hs
  have hspans := h.spans
  rw [h.opened] at hs
  rcases mem_of_mem_openAfter hs with hs | hs
  · have hle := hnumbered s hs
    omega
  · exact (h.numbers s hs).2

end SpanRecorder

open SpanRecorder

theorem account_reply (w : Situation) (s : Scene) (q : Query) :
    Account s.recorder (Turn.spanEvent? ⟨q, (s.reply w q).1⟩).toList (s.reply w q).2.recorder := by
  cases q with
  | startSpan start => exact account_start _ _
  | finishSpan c e => exact account_close _ _ (.finished e)
  | abandonSpan c => exact account_close _ _ .abandoned
  | backoff ms =>
    unfold Scene.reply
    dsimp only
    split <;> exact account_refl _
  | settle what =>
    have hsame : (s.answer w (.settle what)).2.recorder = s.recorder := by
      unfold Scene.answer Scene.settle?
      cases w.acknowledger with
      | scripted tag ackError nackError => rfl
      | channel channel tag =>
        cases what <;> dsimp only <;> cases s.broker.requestByNumber channel _ <;> rfl
    show Account s.recorder [] (s.answer w (.settle what)).2.recorder
    rw [hsame]
    exact account_refl _
  | note | log | clock | timer | pause | cancel | count | observers => exact account_refl _

/-- The recorder of a scene in which a task is done keeps the account of its turns. -/
theorem recorder_play {α : Type} (w : Situation) (t : Task α) (s : Scene) :
    Account s.recorder (spanEvents (t.play (Scene.reply w) s).1)
      (t.play (Scene.reply w) s).2.2.recorder := by
  induction t generalizing s with
  | done a => exact account_refl _
  | ask q rest ih =>
    rw [Task.play, spanEvents_cons]
    exact (account_reply w s q).trans (ih _ _)

end MessageBus
