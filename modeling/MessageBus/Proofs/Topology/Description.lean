import MessageBus.Proofs.Consumer.Dialogue
import MessageBus.Proofs.Dict
import MessageBus.Proofs.Producer.Envelope

/-!
# Exchanges described step by step

What a description comes to in which the steps may be of any number and in any order. Each part of
it is as the last step left it that was about this part, so steps about different things may change
places. A delayed exchange carries its kind in two parts, and a plain kind that is chosen afterwards
changes one of them: the argument that names the delayed kind stays (`delayed_type_left_over`). Main
statement: `description_law`.
-/

set_option autoImplicit false

namespace MessageBus.Exchange

/-! ## What steps are about -/

/-- A kind that is chosen, and the kind that it delays. -/
structure Choice where
  kind : ExchangeKind
  delays : Option ExchangeKind := none
deriving DecidableEq

/-- The argument that goes with a choice: it names the kind that is delayed. -/
def Choice.argument (c : Choice) : Option Amqp.Value := c.delays.map fun k => .ofText k.wireName

/-- What is set or not. -/
inductive Flag where
  | durable
  | autoDelete
  | passive
  | internal
deriving DecidableEq

/-- Whether a flag is set. -/
def flag (e : Exchange) : Flag → Bool
  | .durable => e.durable
  | .autoDelete => e.autoDelete
  | .passive => e.passive
  | .internal => e.internal

/-- The parts of a description. -/
inductive Concern where
  /-- The kind, with the argument that goes with it. -/
  | kind
  | flag (f : Flag)
  | argument (key : String)
  | name
deriving DecidableEq

/-- The part an argument belongs to. -/
def Concern.ofKey (key : String) : Concern := if key = delayedTypeKey then .kind else .argument key

namespace Step

/-- What a step chooses, if it chooses a kind. -/
def choice? : Step → Option Choice
  | .kind k => some { kind := k }
  | .directDelayed => some { kind := .delayed, delays := some .direct }
  | .topicDelayed => some { kind := .delayed, delays := some .topic }
  | _ => none

/-- What a step says of an argument. -/
def argument? (key : String) : Step → Option Amqp.Value
  | .argument k v => if k = key then some v else none
  | _ => none

/-- What a step puts at a key of the arguments. -/
def value? (key : String) (st : Step) : Option Amqp.Value :=
  (if key = delayedTypeKey then st.choice?.bind Choice.argument else none).or (st.argument? key)

/-- The name that a step gives. -/
def name? : Step → Option String
  | .name n => some n
  | _ => none

/-- What a step is about. -/
def concern : Step → Concern
  | .kind _ | .directDelayed | .topicDelayed => .kind
  | .durable => .flag .durable
  | .autoDelete => .flag .autoDelete
  | .passive => .flag .passive
  | .internal => .flag .internal
  | .argument key _ => .ofKey key
  | .name _ => .name

/-- Whether a step leaves the argument of delayed exchanges to the steps that choose a kind. -/
def sparesDelayedType : Step → Bool
  | .argument key _ => key ≠ delayedTypeKey
  | _ => true

end Step

/-- The choices of some steps, in order. -/
def choices (steps : List Step) : List Choice := steps.filterMap Step.choice?

/-! ## The last step decides -/

section

variable {α : Type} {part : Exchange → α} {write? : Step → Option α}

/-- A part that some steps write and the others leave alone is as the last of them wrote it. -/
theorem applyAll_of_apply (h : ∀ e st, part (e.apply st) = (write? st).getD (part e)) (e : Exchange)
    (steps : List Step) :
    part (e.applyAll steps) = ((steps.filterMap write?).getLast?).getD (part e) := by
  induction steps generalizing e with
  | nil => rfl
  | cons st rest ih =>
    have hrest : part (e.applyAll (st :: rest)) = _ := ih (e.apply st)
    rw [hrest, h]
    cases hst : write? st with
    | none => rw [List.filterMap_cons_none hst, Option.getD_none]
    | some a =>
      rw [List.filterMap_cons_some hst, List.getLast?_cons, Option.getD_some, Option.getD_some]

/-- What is written does not depend on the steps that are about something else. -/
theorem filterMap_of_concern {concern : Concern}
    (h : ∀ st : Step, st.concern ≠ concern → write? st = none) (steps : List Step) :
    (steps.filter (·.concern = concern)).filterMap write? = steps.filterMap write? := by
  induction steps with
  | nil => rfl
  | cons st rest ih =>
    by_cases hst : st.concern = concern
    · rw [List.filter_cons_of_pos (by simpa using hst), List.filterMap_cons, List.filterMap_cons,
        ih]
    · rw [List.filter_cons_of_neg (by simpa using hst), ih, List.filterMap_cons_none (h st hst)]

end

attribute [ext] Exchange

variable {e : Exchange} {steps steps' : List Step}

theorem kind_applyAll (e : Exchange) (steps : List Step) :
    (e.applyAll steps).kind = (((choices steps).getLast?).map Choice.kind).getD e.kind := by
  have hkind : (e.applyAll steps).kind =
      ((steps.filterMap fun st => st.choice?.map Choice.kind).getLast?).getD e.kind :=
    applyAll_of_apply (fun e st => by cases st <;> rfl) e steps
  rw [hkind, choices, ← List.getLast?_map, List.map_filterMap]

theorem name_applyAll (e : Exchange) (steps : List Step) :
    (e.applyAll steps).name = ((steps.filterMap Step.name?).getLast?).getD e.name :=
  applyAll_of_apply (fun e st => by cases st <;> rfl) e steps

theorem Concern.ofKey_ne_flag (key : String) (f : Flag) : Concern.ofKey key ≠ .flag f := by
  unfold ofKey
  split <;> exact Concern.noConfusion

/-- A flag is set by the steps about it, and left alone by the others. -/
theorem flag_apply (e : Exchange) (st : Step) (f : Flag) :
    (e.apply st).flag f = (e.flag f || decide (st.concern = .flag f)) := by
  cases st with
  | argument key v =>
    rw [Step.concern, decide_eq_false (Concern.ofKey_ne_flag key f), Bool.or_false]
    rfl
  | kind | directDelayed | topicDelayed | durable | autoDelete | passive | internal | name =>
    cases f <;> simp [apply, flag, delaying, ofKind, withArgument, withName, Step.concern]

theorem flag_applyAll (e : Exchange) (steps : List Step) (f : Flag) :
    (e.applyAll steps).flag f = (e.flag f || steps.any (·.concern = .flag f)) := by
  induction steps generalizing e with
  | nil => exact (Bool.or_false _).symm
  | cons st rest ih =>
    have hrest : (e.applyAll (st :: rest)).flag f = _ := ih (e.apply st)
    rw [hrest, flag_apply, List.any_cons, Bool.or_assoc]

/-- What stands at a key was put there last. -/
theorem get?_applyAll (e : Exchange) (steps : List Step) (key : String) :
    (e.applyAll steps).arguments.get? key =
      ((steps.filterMap (Step.value? key)).getLast?).or (e.arguments.get? key) := by
  have hwrite (e : Exchange) (st : Step) : (e.apply st).arguments.get? key =
      ((st.value? key).map some).getD (e.arguments.get? key) := by
    cases st with
    | directDelayed | topicDelayed | argument =>
      simp only [apply, delaying, ofKind, withArgument, Dict.get?_insert, Step.value?,
        Step.choice?, Step.argument?, eq_comm (a := key)]
      split <;> simp [Choice.argument]
    | kind k =>
      simp [apply, ofKind, Step.value?, Step.choice?, Step.argument?, Choice.argument]
    | durable | autoDelete | passive | internal | name =>
      simp [apply, withName, Step.value?, Step.choice?, Step.argument?]
  have hlast := @applyAll_of_apply _ (fun e => e.arguments.get? key) _ hwrite e steps
  rw [← List.map_filterMap, List.getLast?_map] at hlast
  rw [hlast]
  cases (steps.filterMap (Step.value? key)).getLast? <;> rfl

/-! ## Steps in another order -/

variable {st : Step}

theorem Step.choice?_eq_none (h : st.concern ≠ .kind) : st.choice? = none := by
  cases st with
  | kind | directDelayed | topicDelayed => exact absurd rfl h
  | argument | durable | autoDelete | passive | internal | name => rfl

theorem Step.name?_eq_none (h : st.concern ≠ .name) : st.name? = none := by
  cases st with
  | name => exact absurd rfl h
  | kind | directDelayed | topicDelayed | argument | durable | autoDelete | passive | internal =>
    rfl

theorem Step.value?_eq_none {key : String} (h : st.concern ≠ .ofKey key) :
    st.value? key = none := by
  have hchoice : key = delayedTypeKey → st.choice? = none := by
    rintro rfl
    exact choice?_eq_none h
  have hargument : st.argument? key = none := by
    cases st with
    | argument k v =>
      refine if_neg ?_
      rintro rfl
      exact h rfl
    | kind | directDelayed | topicDelayed | durable | autoDelete | passive | internal | name => rfl
  rw [value?, hargument, Option.or_none]
  split
  · next hkey => rw [hchoice hkey, Option.bind_none]
  · rfl

/-- Steps that are about different things may change places. -/
theorem applyAll_congr
    (h : ∀ concern, steps.filter (·.concern = concern) = steps'.filter (·.concern = concern))
    (e : Exchange) : e.applyAll steps = e.applyAll steps' := by
  have hwritten {α : Type} {write? : Step → Option α} {concern : Concern}
      (hw : ∀ st : Step, st.concern ≠ concern → write? st = none) :
      steps.filterMap write? = steps'.filterMap write? := by
    rw [← filterMap_of_concern hw steps, h, filterMap_of_concern hw]
  have hname : (e.applyAll steps).name = (e.applyAll steps').name := by
    rw [name_applyAll, name_applyAll, hwritten fun _ => Step.name?_eq_none]
  have hkind : (e.applyAll steps).kind = (e.applyAll steps').kind := by
    have hchoices : choices steps = choices steps' := hwritten fun _ => Step.choice?_eq_none
    rw [kind_applyAll, kind_applyAll, hchoices]
  have hflag (f : Flag) : (e.applyAll steps).flag f = (e.applyAll steps').flag f := by
    have hany (l : List Step) : l.any (·.concern = .flag f) =
        (l.filter (·.concern = .flag f)).any (·.concern = .flag f) := by
      rw [List.any_filter]
      simp
    rw [flag_applyAll, flag_applyAll, hany, h, ← hany]
  have harguments : (e.applyAll steps).arguments = (e.applyAll steps').arguments := by
    refine Dict.ext_get? fun key => ?_
    rw [get?_applyAll, get?_applyAll, hwritten fun _ => Step.value?_eq_none]
  exact Exchange.ext hname hkind (hflag .autoDelete) (hflag .durable) (hflag .passive)
    (hflag .internal) harguments

/-! ## The argument of delayed exchanges -/

/-- Steps that leave this argument alone put there what goes with their choices. -/
theorem filterMap_value?_delayedTypeKey (h : ∀ st ∈ steps, st.sparesDelayedType) :
    steps.filterMap (Step.value? delayedTypeKey) = (choices steps).filterMap Choice.argument := by
  rw [choices, List.filterMap_filterMap]
  refine List.filterMap_congr fun st hst => ?_
  have hargument : st.argument? delayedTypeKey = none := by
    have hspares := h st hst
    cases st with
    | argument key v => exact if_neg (by simpa [Step.sparesDelayedType] using hspares)
    | kind | directDelayed | topicDelayed | durable | autoDelete | passive | internal | name => rfl
  rw [Step.value?, if_pos rfl, hargument, Option.or_none]

theorem filterMap_value?_of_ne {key : String} (h : key ≠ delayedTypeKey) (steps : List Step) :
    steps.filterMap (Step.value? key) = steps.filterMap (Step.argument? key) :=
  List.filterMap_congr fun st _ => by rw [Step.value?, if_neg h, Option.none_or]

theorem getLast?_filterMap_of_last {α β : Type} {f : α → Option β} {l : List α} {b : β}
    (h : l.getLast?.bind f = some b) : (l.filterMap f).getLast? = some b := by
  obtain ⟨a, ha, hb⟩ := Option.bind_eq_some_iff.1 h
  obtain ⟨l', rfl⟩ := List.getLast?_eq_some_iff.1 ha
  simp [hb]

/-- The last argument that goes with any of some choices goes with the last one exactly if that one
delays something, or none does. -/
theorem getLast?_argument_iff (cs : List Choice) :
    (cs.filterMap Choice.argument).getLast? = cs.getLast?.bind Choice.argument ↔
      (cs.getLast?.bind Choice.delays).isSome = true ∨ ∀ c ∈ cs, c.delays = none := by
  have hnone (c : Choice) : c.argument = none ↔ c.delays = none := Option.map_eq_none_iff
  have hbind : cs.getLast?.bind Choice.argument =
      (cs.getLast?.bind Choice.delays).map fun k => .ofText k.wireName := Option.map_bind.symm
  cases hlast : cs.getLast?.bind Choice.delays with
  | some k =>
    rw [hlast, Option.map_some] at hbind
    rw [getLast?_filterMap_of_last hbind, hbind]
    simp
  | none =>
    rw [hbind, hlast]
    simp [hnone]

/-! ## What is declared -/

/-- A consumer declares its exchange as it is described, in any history. -/
theorem declared_of_mem_transcript {w : Consumer.Site} {es : List Consumer.Event}
    {channel : Amqp.ChannelId} {name : String}
    (h : .asked (.on channel (.declareExchange name e)) ∈ w.transcript es) :
    name = w.consumer.settings.names.exchange ∧ e = w.consumer.settings.exchange := by
  rcases Consumer.method_of_mem_transcript h with ⟨step, tag, hstep⟩ | ⟨tag, hcancel⟩ | hclose
  · cases step <;> cases hstep
    exact ⟨rfl, rfl⟩
  · cases hcancel
  · cases hclose

/-- A producer declares an exchange as it is described, under the name that was asked for. -/
theorem published_declaration (p : Producer) (c : Connection) (context : TraceContext) (m : Message)
    (data : Metadata) (exchange : Option String) (s : Scene) {f : Amqp.Frame} {name : String}
    (hf : f ∈ (p.publish (Producer.wire c) context m data exchange s).2.2.broker.frames.drop
      s.broker.frames.length) (hmethod : f.method = .declareExchange name e) :
    e = (p.settingsOf m.name).exchange.withName name := by
  cases hencoded : serialize m with
  | error error =>
    -- nothing is asked
    unfold Producer.publish at hf
    rw [hencoded] at hf
    dsimp only at hf
    rw [Producer.broker_logs, List.drop_length] at hf
    cases hf
  | ok encoded =>
    obtain ⟨hrecorded, -⟩ := p.recorded_publish c context m data exchange s hencoded
    have hpart := hrecorded.of_mem_drop hf
    rw [hmethod] at hpart
    rcases hpart with h | h | h
    · cases h
    · cases h
      cases exchange <;> rfl
    · cases h

/-! ## The law -/

/-- What stands in an exchange that is described in steps, and what is declared of it. -/
structure DescriptionLaw (name : String) (steps : List Step) (e : Exchange) : Prop where
  /-- The kind is the one that was chosen last; without a choice the exchange is direct. -/
  kind : e.kind = (((choices steps).getLast?).map Choice.kind).getD .direct
  /-- The argument of delayed exchanges is the last one that goes with any choice, unless it was set
  by hand. -/
  delayedType : (∀ st ∈ steps, st.sparesDelayedType) →
    e.arguments.get? delayedTypeKey = ((choices steps).filterMap Choice.argument).getLast?
  /-- So it is the one that goes with the last choice exactly if that delays something, or none
  does. -/
  settled : (∀ st ∈ steps, st.sparesDelayedType) →
    (e.arguments.get? delayedTypeKey = (choices steps).getLast?.bind Choice.argument ↔
      ((choices steps).getLast?.bind Choice.delays).isSome = true ∨
        ∀ c ∈ choices steps, c.delays = none)
  /-- Every other argument is as it was set last. -/
  arguments : ∀ key ≠ delayedTypeKey,
    e.arguments.get? key = (steps.filterMap (Step.argument? key)).getLast?
  flags : ∀ f, e.flag f = steps.any (·.concern = .flag f)
  called : e.name = ((steps.filterMap Step.name?).getLast?).getD name
  /-- Steps that are about different things may change places. -/
  order : ∀ steps', (∀ concern,
    steps.filter (·.concern = concern) = steps'.filter (·.concern = concern)) →
      (named name).applyAll steps' = e
  /-- A consumer with this exchange declares it just so, ... -/
  consumed : ∀ (w : Consumer.Site) (es : List Consumer.Event), w.consumer.settings.exchange = e →
    ∀ channel name' e', .asked (.on channel (.declareExchange name' e')) ∈ w.transcript es →
      name' = w.consumer.settings.names.exchange ∧ e' = e
  /-- ... and so does a producer, under another name if that is asked for. -/
  produced : ∀ (p : Producer) (c : Connection) (context : TraceContext) (m : Message)
      (data : Metadata) (exchange : Option String) (s : Scene),
    (p.settingsOf m.name).exchange = e →
    let published := p.publish (Producer.wire c) context m data exchange s
    ∀ f ∈ published.2.2.broker.frames.drop s.broker.frames.length,
      ∀ name' e', f.method = .declareExchange name' e' → e' = e.withName name'

/-- An exchange is as the last steps have left it that were about each part of it. -/
theorem description_law (name : String) (steps : List Step) :
    DescriptionLaw name steps ((named name).applyAll steps) where
  kind := kind_applyAll _ _
  delayedType hspares := by
    rw [get?_applyAll, filterMap_value?_delayedTypeKey hspares]
    exact Option.or_none
  settled hspares := by
    rw [get?_applyAll, filterMap_value?_delayedTypeKey hspares, ← getLast?_argument_iff]
    exact iff_of_eq (congrArg (· = _) Option.or_none)
  arguments key hkey := by
    rw [get?_applyAll, filterMap_value?_of_ne hkey]
    exact Option.or_none
  flags f := by
    rw [flag_applyAll]
    cases f <;> exact Bool.false_or _
  called := name_applyAll _ _
  order steps' h := (applyAll_congr h _).symm
  consumed w es he channel name' e' hasked := he ▸ declared_of_mem_transcript hasked
  produced p c context m data exchange s he f hf name' e' hmethod :=
    he ▸ published_declaration p c context m data exchange s hf hmethod

/-- A plain kind that is chosen after a delayed one leaves the argument behind, and it is
declared. -/
theorem delayed_type_left_over :
    let steps : List Step := [.topicDelayed, .kind .topic]
    let e := (named "orders").applyAll steps
    (∀ st ∈ steps, st.sparesDelayedType = true) ∧
      (choices steps).getLast? = some { kind := .topic } ∧ e.kind = .topic ∧
      e.arguments.get? delayedTypeKey = some (.ofText "topic") := by
  refine ⟨?_, rfl, rfl, rfl⟩
  decide

end MessageBus.Exchange
