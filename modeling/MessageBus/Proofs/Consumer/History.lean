import MessageBus.Proofs.Consumer.Steps

/-!
# Histories of consumers

A consumer stands in a scene that other things work on too. Its history is a list of events: steps
of its own, things that happen elsewhere and lead to a later scene, and news for its processor. An
event that is a step which cannot be taken changes nothing, so every list of events is a history.
`happened_next` says once what an event can be.
-/

set_option autoImplicit false

namespace MessageBus

namespace Consumer

/-- A consumer, and the scene it is in. -/
structure Site where
  scene : Scene
  consumer : Consumer

/-- Something that happens elsewhere. -/
structure Change where
  apply : Scene → Scene
  later : ∀ s : Scene, s.Later (apply s)

/-- What happens to a consumer and around it. -/
inductive Event where
  | own (l : Label)
  | elsewhere (change : Change)
  | connectHandler (h : Handler)
  | addObserver (name : String)

/-- Whether an event is a step that is the beginning of a start. -/
def Event.isStart : Event → Bool
  | .own l => l.isStart
  | _ => false

/-- Whether an event is a step that is the beginning of a stop. -/
def Event.isStop : Event → Bool
  | .own .stop => true
  | _ => false

/-- The consumer with another processor. -/
def withProcessor (c : Consumer) (processor : Processor) : Consumer :=
  { c with crew := { c.crew with processor } }

namespace Site

/-- One step of the consumer, if it can be taken. -/
def step? (w : Site) (l : Label) : Option Site :=
  (w.consumer.step w.scene l).map fun (scene, consumer) => ⟨scene, consumer⟩

/-- The site after an event. -/
def next (w : Site) : Event → Site
  | .own l => (w.step? l).getD w
  | .elsewhere change => { w with scene := change.apply w.scene }
  | .connectHandler h =>
    { w with consumer := w.consumer.withProcessor (w.consumer.crew.processor.connectHandler h) }
  | .addObserver name =>
    { w with consumer := w.consumer.withProcessor (w.consumer.crew.processor.addObserver name) }

/-- The site after some events. -/
def after (w : Site) (es : List Event) : Site := es.foldl next w

theorem step?_eq_some {w w' : Site} {l : Label} :
    w.step? l = some w' ↔ w.consumer.step w.scene l = some (w'.scene, w'.consumer) := by
  unfold step?
  constructor
  · intro h
    obtain ⟨r, hr, rfl⟩ := Option.map_eq_some_iff.1 h
    exact hr
  · intro h
    rw [h]
    rfl

theorem stepped_of_step? {w w' : Site} {l : Label} (h : w.step? l = some w') :
    Stepped w.scene w.consumer l w'.scene w'.consumer :=
  stepped_of_step (step?_eq_some.1 h)

end Site

/-- What an event can be. -/
inductive Happened (w : Site) : Event → Site → Prop where
  /-- The step cannot be taken. -/
  | missed {l : Label} (hnone : w.step? l = none) : Happened w (.own l) w
  | took {l : Label} {w' : Site} (hstep : w.step? l = some w')
      (hstepped : Stepped w.scene w.consumer l w'.scene w'.consumer) : Happened w (.own l) w'
  | elsewhere {change : Change} {s' : Scene} (hlater : w.scene.Later s') :
      Happened w (.elsewhere change) { w with scene := s' }
  /-- The processor hears of a handler or an observer. -/
  | told {e : Event} {processor : Processor} (hown : ∀ l, e ≠ .own l)
      (hjobs : processor.jobs = w.consumer.crew.processor.jobs)
      (hmoves : ∃ ms, processor = w.consumer.crew.processor.moves ms) :
      Happened w e { w with consumer := w.consumer.withProcessor processor }

variable {w w' : Site} {e : Event}

theorem happened_next (w : Site) (e : Event) : Happened w e (w.next e) := by
  cases e with
  | own l =>
    show Happened w (.own l) ((w.step? l).getD w)
    cases h : w.step? l with
    | none => exact .missed h
    | some w' => exact .took h (Site.stepped_of_step? h)
  | elsewhere change => exact .elsewhere (change.later w.scene)
  | connectHandler h => exact .told (fun l hl => nomatch hl) rfl ⟨[.connectHandler h], rfl⟩
  | addObserver name => exact .told (fun l hl => nomatch hl) rfl ⟨[.addObserver name], rfl⟩

theorem Happened.later (h : Happened w e w') : w.scene.Later w'.scene := by
  cases h with
  | missed | told => exact Scene.later_refl w.scene
  | took _ hstepped => exact hstepped.later
  | elsewhere hlater => exact hlater

/-! ## The crew in a history -/

theorem Happened.sound (h : Happened w e w') (hsound : Sound w.consumer) : Sound w'.consumer := by
  cases h with
  | missed | elsewhere => exact hsound
  | took hstep _ => exact hsound.step (Site.step?_eq_some.1 hstep)
  | told _ hjobs _ =>
    refine ⟨hsound.slot, hsound.drained, fun i hi => ?_⟩
    have hi : i < w.consumer.crew.processor.jobs.length := hjobs ▸ hi
    refine (hsound.attended i hi).imp_left fun hover => ?_
    obtain ⟨j, hj, hover⟩ := Processor.isOver_iff.1 hover
    exact Processor.isOver_iff.2 ⟨j, hjobs ▸ hj, hover⟩

theorem Stopped.withProcessor {c : Consumer} (h : Stopped c) {processor : Processor}
    (hjobs : processor.jobs = c.crew.processor.jobs) : Stopped (c.withProcessor processor) :=
  ⟨h.status, h.slot, h.active, h.drained, fun j hj => h.finished j (hjobs ▸ hj)⟩

theorem Sound.after (h : Sound w.consumer) (es : List Event) : Sound (w.after es).consumer :=
  List.foldlRecOn (motive := fun w => Sound w.consumer) es Site.next h
    fun w hw e _ => (happened_next w e).sound hw

/-- What a step does to the processor is a history of its own. -/
theorem Stepped.processor {s s' : Scene} {c c' : Consumer} {l : Label} (h : Stepped s c l s' c') :
    ∃ ms, c'.crew.processor = c.crew.processor.moves ms := by
  cases h with
  | work hwork => exact hwork.processor
  | channelClosed _ hproc => exact ⟨[], hproc⟩
  | start | stop | found | hired | declined | vacant | cancels | drains | cancelled | closes
  | spared | closed | unclosed | opened | unopened | built | unbuilt | installed | retired
  | gone | rebuilds | passes | reconnected => exact ⟨[], rfl⟩

theorem Happened.processor (h : Happened w e w') :
    ∃ ms, w'.consumer.crew.processor = w.consumer.crew.processor.moves ms := by
  cases h with
  | missed | elsewhere => exact ⟨[], rfl⟩
  | took _ hstepped => exact hstepped.processor
  | told _ _ hmoves => exact hmoves

/-- To the processor every history of its consumer is a history of its own. -/
theorem exists_processor_moves (w : Site) (es : List Event) :
    ∃ ms, (w.after es).consumer.crew.processor = w.consumer.crew.processor.moves ms :=
  Processor.exists_moves_foldl (fun w : Site => w.consumer.crew.processor)
    (fun w e => (happened_next w e).processor) w es

@[simp] theorem settings_after (w : Site) (es : List Event) :
    (w.after es).consumer.settings = w.consumer.settings := by
  obtain ⟨ms, hms⟩ := exists_processor_moves w es
  unfold settings
  rw [hms, Processor.moves_settings]

end Consumer

end MessageBus
