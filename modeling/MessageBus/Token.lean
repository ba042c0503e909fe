/-!
# Cancellation tokens

A token can be cancelled, at once or at a time to come, and it can be made below another token: then
it is cancelled as soon as that one is. `Tokens.cancelTime?` is the first time at which a token is
cancelled by itself or from above.
-/

set_option autoImplicit false

namespace MessageBus

/-- A cancellation token, by its number. -/
abbrev Token := Nat

/-- The earlier of two times that may never come. -/
def earlier : Option Nat → Option Nat → Option Nat
  | none, b => b
  | a, none => a
  | some a, some b => some (min a b)

/-- What is known of one token. -/
structure TokenNode where
  parent : Option Token := none
  cancelledAt : Option Nat := none
deriving DecidableEq, Inhabited, Repr

/-- The tokens made so far, the newest one first. The number of a token is the count of the tokens
made before it, so a parent stands further back than its children. -/
structure Tokens where
  nodes : List TokenNode := []
deriving DecidableEq, Inhabited, Repr

namespace Tokens

/-- The time at which a token is cancelled, looked up among some nodes. -/
def cancelTimeIn : List TokenNode → Token → Option Nat
  | [], _ => none
  | n :: older, t =>
    if t = older.length then
      earlier n.cancelledAt
        (match n.parent with
        | none => none
        | some p => cancelTimeIn older p)
    else cancelTimeIn older t

/-- The time at which a token is cancelled, if it is. -/
def cancelTime? (ts : Tokens) (t : Token) : Option Nat := cancelTimeIn ts.nodes t

/-- Whether a token is cancelled by some time. -/
def isCancelled (ts : Tokens) (t : Token) (now : Nat) : Bool :=
  match ts.cancelTime? t with
  | none => false
  | some time => time ≤ now

/-- One more token, below another one or on its own. -/
def make (ts : Tokens) (parent : Option Token) : Tokens × Token :=
  (⟨{ parent } :: ts.nodes⟩, ts.nodes.length)

/-- The nodes with one token cancelled at a time. -/
def cancelIn (time : Nat) : List TokenNode → Token → List TokenNode
  | [], _ => []
  | n :: older, t =>
    if t = older.length then { n with cancelledAt := earlier n.cancelledAt (some time) } :: older
    else n :: cancelIn time older t

/-- Cancels a token at a time. A token that is cancelled earlier stays so. -/
def cancelAt (ts : Tokens) (t : Token) (time : Nat) : Tokens := ⟨cancelIn time ts.nodes t⟩

/-! ## What cancelling and making do -/

@[simp] theorem length_cancelIn (time : Nat) (ns : List TokenNode) (t : Token) :
    (cancelIn time ns t).length = ns.length := by
  induction ns with
  | nil => rfl
  | cons n older ih =>
    simp only [cancelIn]
    split <;> simp [ih]

theorem earlier_le_right (a : Option Nat) (b : Nat) : ∃ c, earlier a (some b) = some c ∧ c ≤ b := by
  cases a with
  | none => exact ⟨b, rfl, Nat.le_refl b⟩
  | some a => exact ⟨min a b, rfl, Nat.min_le_right a b⟩

theorem earlier_le_left (a : Nat) (b : Option Nat) : ∃ c, earlier (some a) b = some c ∧ c ≤ a := by
  cases b with
  | none => exact ⟨a, rfl, Nat.le_refl a⟩
  | some b => exact ⟨min a b, rfl, Nat.min_le_left a b⟩

theorem cancelTimeIn_cancelIn {ns : List TokenNode} {t : Token} (h : t < ns.length) (time : Nat) :
    ∃ c, cancelTimeIn (cancelIn time ns t) t = some c ∧ c ≤ time := by
  induction ns with
  | nil => simp at h
  | cons n older ih =>
    simp only [List.length_cons] at h
    by_cases ht : t = older.length
    · subst ht
      obtain ⟨c, hc, hle⟩ := earlier_le_right n.cancelledAt time
      obtain ⟨d, hd, hle'⟩ := earlier_le_left c
        (match n.parent with
        | none => none
        | some p => cancelTimeIn older p)
      refine ⟨d, ?_, Nat.le_trans hle' hle⟩
      rw [cancelIn, if_pos rfl, cancelTimeIn, if_pos rfl, hc]
      exact hd
    · obtain ⟨c, hc, hle⟩ := ih (Nat.lt_of_le_of_ne (Nat.le_of_lt_succ h) ht)
      refine ⟨c, ?_, hle⟩
      rw [cancelIn, if_neg ht, cancelTimeIn, if_neg (by simpa using ht)]
      exact hc

/-- A token that is cancelled at a time is cancelled by then. -/
theorem isCancelled_cancelAt {ts : Tokens} {t : Token} (h : t < ts.nodes.length) (time : Nat) :
    (ts.cancelAt t time).isCancelled t time = true := by
  obtain ⟨c, hc, hle⟩ := cancelTimeIn_cancelIn h time
  simp [isCancelled, cancelTime?, cancelAt, hc, hle]

end Tokens

end MessageBus
