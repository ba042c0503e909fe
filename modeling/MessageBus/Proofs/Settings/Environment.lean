import MessageBus.Proofs.Text.Percent
import MessageBus.Settings.Environment

/-!
# What an environment makes of the settings

A variable that is set to a text determines its field, and one that is not leaves the default. Of
the three variables that are not taken as they are, the first one whose text cannot be read is
reported. A variable whose bytes spell no text is among those that are not set to one. Main
statement: `environment_law`.
-/

set_option autoImplicit false

namespace MessageBus.Settings

/-! ## What a text may say -/

/-- A number of at most `greatest` is written in decimal digits, before which a plus sign may
stand. -/
def Spells (greatest : Nat) (raw : String) (n : Nat) : Prop :=
  ∃ digits, (raw.toList = digits ∨ raw.toList = '+' :: digits) ∧ digits ≠ [] ∧
    (∀ c ∈ digits, c.isDigit = true) ∧ Decimal.ofDigits digits = n ∧ n ≤ greatest

/-- A flag is written as one of two words. -/
def SpellsFlag (raw : String) (b : Bool) : Prop := raw = if b then "true" else "false"

variable {α : Type} {env : Environment} {key raw : String} {greatest n : Nat}

theorem unsigned?_eq_some_iff :
    Decimal.unsigned? greatest raw = some n ↔ Spells greatest raw n := by
  have hdigits : ∀ cs, cs = Decimal.digitsOf cs ∨ cs = '+' :: Decimal.digitsOf cs := by
    intro cs
    unfold Decimal.digitsOf
    split
    · exact .inr rfl
    · exact .inl rfl
  constructor
  · intro h
    unfold Decimal.unsigned? at h
    simp only at h
    split at h
    · cases h
    · next hread =>
      rw [Bool.or_eq_true, not_or] at hread
      split at h
      · next hle =>
        obtain rfl := Option.some.inj h
        exact ⟨_, hdigits _, by simpa using hread.1, by simpa using hread.2, rfl, hle⟩
      · cases h
  · rintro ⟨digits, hraw, hne, hall, rfl, hle⟩
    have hof : Decimal.digitsOf raw.toList = digits := by
      rcases hraw with hraw | hraw
      · rw [hraw]
        unfold Decimal.digitsOf
        split
        · exact absurd (hall '+' (by simp)) (by decide)
        · rfl
      · rw [hraw]
        rfl
    unfold Decimal.unsigned?
    simp only [hof]
    rw [if_neg, if_pos hle]
    simp only [Bool.or_eq_true, List.isEmpty_iff, hne, false_or, Bool.not_eq_true',
      Bool.not_eq_false]
    simpa using hall

theorem parseFlag_eq_some_iff (raw : String) (b : Bool) :
    parseFlag raw = some b ↔ SpellsFlag raw b := by
  unfold parseFlag SpellsFlag
  cases b <;> grind

/-! ## One variable -/

/-- A variable is set to a text. -/
def IsSet (env : Environment) (key raw : String) : Prop := env.lookup key = some (Utf8.encode raw)

/-- What a variable makes of a field: what its text says, or the default where it is set to no
text. -/
def Gives (env : Environment) (key : String) (Says : String → α → Prop) (default a : α) : Prop :=
  (∃ raw, IsSet env key raw ∧ Says raw a) ∨ (∀ raw, ¬IsSet env key raw) ∧ a = default

theorem textOf?_eq_some_iff : textOf? env key = some raw ↔ IsSet env key raw := by
  rw [textOf?, Option.bind_eq_some_iff, IsSet]
  constructor
  · rintro ⟨bs, hbs, hraw⟩
    rw [hbs, Utf8.eq_encode_of_decode? hraw]
  · exact fun h => ⟨_, h, Utf8.decode?_encode raw⟩

theorem textOf?_eq_none_iff : textOf? env key = none ↔ ∀ raw, ¬IsSet env key raw := by
  rw [Option.eq_none_iff_forall_ne_some]
  exact forall_congr' fun raw => not_congr textOf?_eq_some_iff

theorem isSet_iff_eq (h : textOf? env key = some raw) (other : String) :
    IsSet env key other ↔ other = raw := by
  rw [← textOf?_eq_some_iff, h, Option.some.injEq, eq_comm]

theorem getD_textOf?_eq_iff {default text : String} :
    (textOf? env key).getD default = text ↔ Gives env key (· = ·) default text := by
  cases h : textOf? env key with
  | none =>
    have hnone := textOf?_eq_none_iff.1 h
    rw [Option.getD_none, Gives, or_iff_right fun ⟨raw, hraw, _⟩ => hnone raw hraw,
      and_iff_right hnone, eq_comm]
  | some raw => simp [Gives, isSet_iff_eq h]

section Reading

variable {parse : String → Option α} {Says : String → α → Prop} {default a : α} {e : BusError}

/-- A variable is set to a text that says nothing of its field. -/
def Unreadable (env : Environment) (key : String) (Says : String → α → Prop) (raw : String) :
    Prop :=
  IsSet env key raw ∧ ∀ a, ¬Says raw a

theorem readVariable_eq_ok_iff (hparse : ∀ raw a, parse raw = some a ↔ Says raw a) :
    readVariable env key parse default = .ok a ↔ Gives env key Says default a := by
  rw [readVariable]
  cases h : textOf? env key with
  | none =>
    have hnone := textOf?_eq_none_iff.1 h
    rw [Gives, or_iff_right fun ⟨raw, hraw, _⟩ => hnone raw hraw, and_iff_right hnone, eq_comm]
    simp
  | some raw =>
    simp only [Gives, isSet_iff_eq h, exists_eq_left, ← hparse]
    cases hread : parse raw <;> simp

theorem readVariable_eq_error_iff (hparse : ∀ raw a, parse raw = some a ↔ Says raw a) :
    readVariable env key parse default = .error e ↔ ∃ raw, Unreadable env key Says raw ∧
      e = .configuration s!"invalid value for {key}: {raw}" := by
  rw [readVariable]
  cases h : textOf? env key with
  | none =>
    have hnone := textOf?_eq_none_iff.1 h
    simp [Unreadable, hnone]
  | some raw =>
    simp only [Unreadable, isSet_iff_eq h, and_assoc, exists_eq_left, ← hparse]
    cases hread : parse raw <;> simp [eq_comm]

/-- A variable can be read unless it is set to a text that says nothing. -/
theorem exists_readVariable_eq_ok_iff (hparse : ∀ raw a, parse raw = some a ↔ Says raw a) :
    (∃ a, readVariable env key parse default = .ok a) ↔
      ∀ raw, IsSet env key raw → ∃ a, Says raw a := by
  constructor
  · rintro ⟨a, ha⟩ raw hset
    by_contra hnone
    have herror : readVariable env key parse default = .error _ :=
      (readVariable_eq_error_iff hparse).2 ⟨raw, ⟨hset, not_exists.1 hnone⟩, rfl⟩
    rw [ha] at herror
    cases herror
  · intro h
    cases hread : readVariable env key parse default with
    | ok a => exact ⟨a, rfl⟩
    | error e =>
      obtain ⟨raw, ⟨hset, hnot⟩, -⟩ := (readVariable_eq_error_iff hparse).1 hread
      obtain ⟨a, ha⟩ := h raw hset
      exact absurd ha (hnot a)

end Reading

/-! ## All variables -/

/-- A text that says which port it is. -/
def SpellsPort (raw : String) (port : UInt16) : Prop := Spells (UInt16.size - 1) raw port.toNat

/-- A text that says how many milliseconds a pause has. -/
def SpellsPause (raw : String) (millis : UInt64) : Prop := Spells (UInt64.size - 1) raw millis.toNat

/-- A number in a type that holds all numbers up to `greatest`. -/
theorem map_unsigned?_eq_some_iff {ofNat : Nat → α} {toNat : α → Nat}
    (hofNat : ∀ n ≤ greatest, toNat (ofNat n) = n) (htoNat : ∀ a, ofNat (toNat a) = a)
    (raw : String) (a : α) :
    (Decimal.unsigned? greatest raw).map ofNat = some a ↔ Spells greatest raw (toNat a) := by
  rw [Option.map_eq_some_iff, ← unsigned?_eq_some_iff]
  constructor
  · rintro ⟨n, hn, rfl⟩
    rwa [hofNat n (Decimal.le_of_unsigned? hn)]
  · exact fun h => ⟨_, h, htoNat a⟩

theorem parsePort_eq_some_iff (raw : String) (port : UInt16) :
    (Decimal.unsigned? (UInt16.size - 1) raw).map Nat.toUInt16 = some port ↔
      SpellsPort raw port :=
  map_unsigned?_eq_some_iff
    (fun _ hle => UInt16.toNat_ofNat_of_lt' (Nat.lt_of_le_pred (by decide) hle))
    (fun _ => UInt16.ofNat_toNat) raw port

theorem parsePause_eq_some_iff (raw : String) (millis : UInt64) :
    (Decimal.unsigned? (UInt64.size - 1) raw).map Nat.toUInt64 = some millis ↔
      SpellsPause raw millis :=
  map_unsigned?_eq_some_iff
    (fun _ hle => UInt64.toNat_ofNat_of_lt' (Nat.lt_of_le_pred (by decide) hle))
    (fun _ => UInt64.ofNat_toNat) raw millis

/-- The default settings overlaid with an environment. -/
structure Overlaid (env : Environment) (s : Settings) : Prop where
  host : Gives env "RABBITMQ_HOST" (· = ·) "localhost" s.host
  port : Gives env "RABBITMQ_PORT" SpellsPort 5672 s.port
  user : Gives env "RABBITMQ_USER" (· = ·) "guest" s.user
  password : Gives env "RABBITMQ_PASSWORD" (· = ·) "guest" s.password
  vhost : Gives env "RABBITMQ_VHOST" (· = ·) "/" s.vhost
  appName : Gives env "APP_NAME" (· = ·) "rabbitmq-bus" s.appName
  reconnecting : Gives env "RABBITMQ_RECONNECTING" SpellsFlag true s.reconnecting
  reconnectDelay : Gives env "RABBITMQ_RECONNECT_DELAY_MS" SpellsPause 500 s.reconnectDelayMillis
  rest : s.autoStart = true ∧ s.persisted = true

/-- The variables that are read, each with the texts that can be, in the order in which they are
read. -/
def readings : List (String × (String → Prop)) :=
  [("RABBITMQ_PORT", fun raw => ∃ port, SpellsPort raw port),
    ("RABBITMQ_RECONNECTING", fun raw => ∃ b, SpellsFlag raw b),
    ("RABBITMQ_RECONNECT_DELAY_MS", fun raw => ∃ millis, SpellsPause raw millis)]

/-- The first of some readings that is refused, and the error that names it. -/
inductive Refused (env : Environment) (e : BusError) : List (String × (String → Prop)) → Prop where
  | here {key raw : String} {readable : String → Prop} {rest : List (String × (String → Prop))}
      (hset : IsSet env key raw) (hnot : ¬readable raw)
      (he : e = .configuration s!"invalid value for {key}: {raw}") :
      Refused env e ((key, readable) :: rest)
  | later {key : String} {readable : String → Prop} {rest : List (String × (String → Prop))}
      (hread : ∀ raw, IsSet env key raw → readable raw) (hrest : Refused env e rest) :
      Refused env e ((key, readable) :: rest)

theorem exists_refused_iff (env : Environment) (l : List (String × (String → Prop))) :
    (∃ e, Refused env e l) ↔ ∃ p ∈ l, ∃ raw, IsSet env p.1 raw ∧ ¬p.2 raw := by
  constructor
  · rintro ⟨e, h⟩
    induction h with
    | here hset hnot _ => exact ⟨_, List.mem_cons_self, _, hset, hnot⟩
    | later _ _ ih =>
      obtain ⟨p, hp, h⟩ := ih
      exact ⟨p, List.mem_cons_of_mem _ hp, h⟩
  · induction l with
    | nil => rintro ⟨p, hp, _⟩; cases hp
    | cons q l ih =>
      rintro ⟨p, hp, raw, hset, hnot⟩
      by_cases hq : ∀ raw, IsSet env q.1 raw → q.2 raw
      · -- the refused reading is a later one
        rcases List.mem_cons.1 hp with rfl | hp
        · exact absurd (hq raw hset) hnot
        · obtain ⟨e, he⟩ := ih ⟨p, hp, raw, hset, hnot⟩
          exact ⟨e, .later hq he⟩
      · simp only [not_forall] at hq
        obtain ⟨raw, hset, hnot⟩ := hq
        exact ⟨_, .here hset hnot rfl⟩

theorem bind_eq_ok_iff {β ε : Type} {x : Except ε α} {f : α → Except ε β} {b : β} :
    x >>= f = .ok b ↔ ∃ a, x = .ok a ∧ f a = .ok b := by
  cases x <;> simp [bind, Except.bind]

theorem bind_eq_error_iff {β ε : Type} {x : Except ε α} {f : α → Except ε β} {e : ε} :
    x >>= f = .error e ↔ x = .error e ∨ ∃ a, x = .ok a ∧ f a = .error e := by
  cases x <;> simp [bind, Except.bind]

theorem ofEnvironment_eq_ok_iff (s : Settings) : ofEnvironment env = .ok s ↔ Overlaid env s := by
  unfold ofEnvironment
  simp only [bind_eq_ok_iff, readVariable_eq_ok_iff parsePort_eq_some_iff,
    readVariable_eq_ok_iff parsePause_eq_some_iff,
    readVariable_eq_ok_iff parseFlag_eq_some_iff]
  constructor
  · rintro ⟨port, hport, reconnecting, hreconnecting, millis, hmillis, hs⟩
    obtain rfl := Except.ok.inj hs
    exact ⟨getD_textOf?_eq_iff.1 rfl, hport, getD_textOf?_eq_iff.1 rfl, getD_textOf?_eq_iff.1 rfl,
      getD_textOf?_eq_iff.1 rfl, getD_textOf?_eq_iff.1 rfl, hreconnecting, hmillis, rfl, rfl⟩
  · intro h
    refine ⟨s.port, h.port, s.reconnecting, h.reconnecting, s.reconnectDelayMillis,
      h.reconnectDelay, congrArg Except.ok ?_⟩
    cases s
    simp only [mk.injEq, true_and]
    exact ⟨getD_textOf?_eq_iff.2 h.host, getD_textOf?_eq_iff.2 h.user,
      getD_textOf?_eq_iff.2 h.password, getD_textOf?_eq_iff.2 h.vhost,
      getD_textOf?_eq_iff.2 h.appName, h.rest.1.symm, h.rest.2.symm⟩

/-- Reading a variable and going on is refused where the variable is or what follows is. -/
theorem bind_readVariable_eq_error_iff {β : Type} {parse : String → Option α}
    {Says : String → α → Prop} {default : α} {f : α → Except BusError β} {e : BusError}
    {rest : List (String × (String → Prop))} (hparse : ∀ raw a, parse raw = some a ↔ Says raw a)
    (hrest : ∀ a, f a = .error e ↔ Refused env e rest) :
    readVariable env key parse default >>= f = .error e ↔
      Refused env e ((key, fun raw => ∃ a, Says raw a) :: rest) := by
  rw [bind_eq_error_iff, readVariable_eq_error_iff hparse]
  simp only [hrest, exists_and_right, exists_readVariable_eq_ok_iff hparse]
  constructor
  · rintro (⟨raw, ⟨hset, hnot⟩, he⟩ | ⟨hread, h⟩)
    · exact .here hset (not_exists.2 hnot) he
    · exact .later hread h
  · intro h
    cases h with
    | here hset hnot he => exact .inl ⟨_, ⟨hset, not_exists.1 hnot⟩, he⟩
    | later hread h => exact .inr ⟨hread, h⟩

theorem not_refused_nil (e : BusError) : ¬Refused env e [] := fun h => nomatch h

theorem ofEnvironment_eq_error_iff (e : BusError) :
    ofEnvironment env = .error e ↔ Refused env e readings := by
  unfold ofEnvironment readings
  refine bind_readVariable_eq_error_iff parsePort_eq_some_iff fun _ => ?_
  refine bind_readVariable_eq_error_iff parseFlag_eq_some_iff fun _ => ?_
  refine bind_readVariable_eq_error_iff parsePause_eq_some_iff fun _ => ?_
  exact ⟨nofun, fun h => absurd h (not_refused_nil e)⟩

/-! ## The law -/

/-- What the settings of an environment are. -/
structure EnvironmentLaw (env : Environment) : Prop where
  /-- The settings are the default ones, overlaid with what every variable says that is set to a
  text. -/
  ok : ∀ s, ofEnvironment env = .ok s ↔ Overlaid env s
  /-- The error names the first variable that is set to a text and cannot be read. -/
  error : ∀ e, ofEnvironment env = .error e ↔ Refused env e readings
  /-- There is an error exactly if there is such a variable. -/
  fails : (∃ e, ofEnvironment env = .error e) ↔
    ∃ p ∈ readings, ∃ raw, IsSet env p.1 raw ∧ ¬p.2 raw

/-- Whatever an environment sets to a text determines its field or is reported. -/
theorem environment_law (env : Environment) : EnvironmentLaw env where
  ok := ofEnvironment_eq_ok_iff
  error := ofEnvironment_eq_error_iff
  fails := by
    rw [← exists_refused_iff]
    exact exists_congr ofEnvironment_eq_error_iff

/-- A port that is set, but not to a text, is passed over. -/
theorem port_passed_over :
    let env : Environment := [("RABBITMQ_PORT", [0xff])]
    ofEnvironment env = .ok {} ∧ (env.lookup "RABBITMQ_PORT").isSome = true ∧
      ∀ port raw, SpellsPort raw port → env.lookup "RABBITMQ_PORT" ≠ some (Utf8.encode raw) := by
  have hnone : Utf8.decode? [0xff] = none := by decide +kernel
  refine ⟨by decide +kernel, rfl, fun _ raw _ h => ?_⟩
  have hread : Utf8.decode? [0xff] = some raw := by
    rw [Option.some.inj h, Utf8.decode?_encode]
  rw [hnone] at hread
  cases hread

end MessageBus.Settings
