/-!
# Durations

A duration is a number of whole seconds below `2^64` and of nanoseconds below a second. It is
multiplied with saturation at the longest duration. Waits and deadlines are counted in whole
milliseconds, rounded up.
-/

set_option autoImplicit false

namespace MessageBus

/-- A span of time. -/
structure Duration where
  secs : Nat
  nanos : Nat
  secs_lt : secs < UInt64.size := by decide
  nanos_lt : nanos < 1000000000 := by decide
deriving DecidableEq

namespace Duration

/-- No time at all. -/
def zero : Duration := ⟨0, 0, by decide, by decide⟩

/-- The longest duration. -/
def max : Duration := ⟨UInt64.size - 1, 999999999, by decide, by decide⟩

instance : Inhabited Duration := ⟨zero⟩

/-- The length in nanoseconds. -/
def toNanos (d : Duration) : Nat := d.secs * 1000000000 + d.nanos

/-- The length in milliseconds, rounded down. -/
def toMillis (d : Duration) : Nat := d.secs * 1000 + d.nanos / 1000000

/-- A number of milliseconds; beyond the longest duration it is the longest. -/
def ofMillis (ms : Nat) : Duration :=
  if h : ms / 1000 < UInt64.size then ⟨ms / 1000, ms % 1000 * 1000000, h, by omega⟩ else max

/-- Seconds and nanoseconds, the nanoseconds carried over into seconds. -/
def ofParts (secs nanos : Nat) : Duration :=
  if h : secs + nanos / 1000000000 < UInt64.size then
    ⟨secs + nanos / 1000000000, nanos % 1000000000, h, Nat.mod_lt _ (by decide)⟩
  else max

/-- A multiple of a duration: the nanoseconds are multiplied and carried over into the seconds, and
a product that is too long is the longest duration. -/
def saturatingMul (d : Duration) (k : Nat) : Duration := ofParts (d.secs * k) (d.nanos * k)

/-- The length in milliseconds, rounded up. -/
def ceilMillis (d : Duration) : Nat := (d.toNanos + 999999) / 1000000

/-- Whole milliseconds are not rounded. -/
theorem ceilMillis_ofMillis {ms : Nat} (h : ms < UInt64.size) : (ofMillis ms).ceilMillis = ms := by
  have hsecs : ms / 1000 < UInt64.size := Nat.lt_of_le_of_lt (Nat.div_le_self _ _) h
  simp only [ofMillis, dif_pos hsecs, ceilMillis, toNanos]
  omega

end Duration

end MessageBus
