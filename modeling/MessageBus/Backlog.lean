/-!
# Backlogs

A signal that is broadcast waits at every receiver until the receiver reads it. A receiver keeps the
last sixteen signals; of the ones before them it keeps only how many there were, and reads all of
those together as one lag. Every signal is read or counted in a lag: `unread_push` and
`unread_take?`.
-/

set_option autoImplicit false

namespace MessageBus

/-- What a receiver reads: a signal, or that it missed so many. -/
inductive Signal where
  | one
  | lagged (missed : Nat)
deriving DecidableEq, Inhabited, Repr

/-- How many signals something that is read stands for. -/
def Signal.covers : Signal → Nat
  | .one => 1
  | .lagged missed => missed

/-- The signals a receiver has not read. -/
structure Backlog where
  missed : Nat := 0
  queued : Nat := 0
deriving DecidableEq, Inhabited, Repr

namespace Backlog

/-- How many signals a receiver keeps. -/
def capacity : Nat := 16

/-- One more signal. -/
def push (b : Backlog) : Backlog :=
  if b.queued < capacity then { b with queued := b.queued + 1 }
  else { b with missed := b.missed + 1 }

/-- So many more signals. -/
def pushAll (b : Backlog) : Nat → Backlog
  | 0 => b
  | n + 1 => b.push.pushAll n

/-- The first thing to read, and what is left after it. -/
def take? (b : Backlog) : Option (Signal × Backlog) :=
  if b.missed ≠ 0 then some (.lagged b.missed, { b with missed := 0 })
  else if b.queued ≠ 0 then some (.one, { b with queued := b.queued - 1 })
  else none

/-- How many signals are not read. -/
def unread (b : Backlog) : Nat := b.missed + b.queued

/-- Whether there is nothing to read. -/
def isEmpty (b : Backlog) : Bool := b.missed == 0 && b.queued == 0

/-- How many reads a receiver makes until there is nothing left. -/
def reads (b : Backlog) : Nat := (if b.missed = 0 then 0 else 1) + b.queued

/-- The signals that are read before a lag, as many as there are without one. -/
def signalsBeforeLag (b : Backlog) : Nat := if b.missed = 0 then b.queued else 0

/-- What is left when reading ends at the first lag. -/
def skim (b : Backlog) : Backlog :=
  if b.missed = 0 then { b with queued := 0 } else { b with missed := 0 }

/-- Each read leaves one fewer. -/
theorem reads_take? {b b' : Backlog} {s : Signal} (h : b.take? = some (s, b')) :
    b.reads = b'.reads + 1 := by
  unfold take? at h
  split at h
  · next hm =>
    obtain ⟨-, rfl⟩ := Prod.mk.inj (Option.some.inj h)
    simp only [reads, if_neg hm, if_pos]
    omega
  · split at h
    · next hm hq =>
      obtain ⟨-, rfl⟩ := Prod.mk.inj (Option.some.inj h)
      simp only [reads]
      omega
    · simp at h

theorem isEmpty_push (b : Backlog) : b.push.isEmpty = false := by
  unfold push
  split <;> simp [isEmpty]

theorem unread_push (b : Backlog) : b.push.unread = b.unread + 1 := by
  unfold push
  split
  · exact (Nat.add_assoc _ _ _).symm
  · exact Nat.add_right_comm _ _ _

/-- A read takes away what it stands for. -/
theorem unread_take? {b b' : Backlog} {s : Signal} (h : b.take? = some (s, b')) :
    b.unread = s.covers + b'.unread := by
  unfold take? at h
  split at h
  · obtain ⟨rfl, rfl⟩ := Prod.mk.inj (Option.some.inj h)
    simp [unread, Signal.covers]
  · split at h
    · next hm hq =>
      obtain ⟨rfl, rfl⟩ := Prod.mk.inj (Option.some.inj h)
      simp only [unread, Signal.covers]
      omega
    · cases h

/-- There is a next thing to read as long as anything is left. -/
theorem exists_take? {b : Backlog} (h : b.isEmpty = false) :
    ∃ s b', b.take? = some (s, b') ∧ b.reads = b'.reads + 1 := by
  cases htake : b.take? with
  | none =>
    unfold take? at htake
    unfold isEmpty at h
    split at htake <;> simp_all
  | some r => exact ⟨r.1, r.2, rfl, reads_take? htake⟩

end Backlog

end MessageBus
