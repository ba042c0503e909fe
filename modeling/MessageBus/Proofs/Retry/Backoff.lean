import Mathlib.Algebra.Order.Ring.Nat
import MessageBus.Proofs.Retry.Schedule

/-!
# How waits grow

The delay of a policy times a power of two, cut where 32 bits end and where durations end. The
product is computed in words: the nanoseconds in 64 bits and without a check, since they cannot
overflow, and the seconds with one. It is the exact product all the same, so the waits never get
shorter and double until they are cut. Main statement: `backoff_law`.
-/

set_option autoImplicit false

namespace MessageBus

namespace Duration

/-! ## Multiples of a duration -/

/-- The numbers of seconds and of nanoseconds can be told from the length. -/
theorem toNanos_inj {d d' : Duration} : d.toNanos = d'.toNanos ↔ d = d' := by
  refine ⟨fun h => ?_, congrArg toNanos⟩
  obtain ⟨secs, nanos, hsecs, hnanos⟩ := d
  obtain ⟨secs', nanos', hsecs', hnanos'⟩ := d'
  simp only [toNanos] at h
  obtain ⟨rfl, rfl⟩ : secs = secs' ∧ nanos = nanos' := by omega
  rfl

theorem toNanos_max : max.toNanos = UInt64.size * 1000000000 - 1 := rfl

/-- Parts that are carried over make their sum, unless that is no duration. -/
theorem toNanos_ofParts (secs nanos : Nat) :
    (ofParts secs nanos).toNanos = min (secs * 1000000000 + nanos) max.toNanos := by
  unfold ofParts
  rw [toNanos_max]
  split
  · next hfits =>
    simp only [toNanos]
    omega
  · next hlong =>
    rw [toNanos_max]
    omega

/-- A multiple is exact up to the longest duration. -/
theorem toNanos_saturatingMul (d : Duration) (k : Nat) :
    (d.saturatingMul k).toNanos = min (d.toNanos * k) max.toNanos := by
  have hproduct : d.toNanos * k = d.secs * k * 1000000000 + d.nanos * k := by
    rw [toNanos, Nat.add_mul, Nat.mul_right_comm]
  rw [saturatingMul, toNanos_ofParts, hproduct]

theorem toNanos_saturatingMul_mono (d : Duration) {j k : Nat} (h : j ≤ k) :
    (d.saturatingMul j).toNanos ≤ (d.saturatingMul k).toNanos := by
  rw [toNanos_saturatingMul, toNanos_saturatingMul]
  exact min_le_min_right _ (Nat.mul_le_mul_left _ h)

/-- A longer duration is rounded up to no less. -/
theorem ceilMillis_mono {d d' : Duration} (h : d.toNanos ≤ d'.toNanos) :
    d.ceilMillis ≤ d'.ceilMillis :=
  Nat.div_le_div_right (Nat.add_le_add_right h 999999)

/-! ## In words -/

/-- A product of two words, if it is one. -/
def mulWord? (a b : UInt64) : Option UInt64 :=
  if a.toNat * b.toNat < UInt64.size then some (a * b) else none

/-- A sum of two words, if it is one. -/
def addWord? (a b : UInt64) : Option UInt64 :=
  if a.toNat + b.toNat < UInt64.size then some (a + b) else none

theorem toNat_of_mulWord? {a b c : UInt64} (h : mulWord? a b = some c) :
    c.toNat = a.toNat * b.toNat := by
  unfold mulWord? at h
  split at h
  · next hfits =>
    rw [← Option.some.inj h, UInt64.toNat_mul]
    exact Nat.mod_eq_of_lt hfits
  · cases h

theorem size_le_of_mulWord? {a b : UInt64} (h : mulWord? a b = none) :
    UInt64.size ≤ a.toNat * b.toNat := by
  unfold mulWord? at h
  split at h
  · cases h
  · next hlong => exact Nat.le_of_not_lt hlong

theorem toNat_of_addWord? {a b c : UInt64} (h : addWord? a b = some c) :
    c.toNat = a.toNat + b.toNat := by
  unfold addWord? at h
  split at h
  · next hfits =>
    rw [← Option.some.inj h, UInt64.toNat_add]
    exact Nat.mod_eq_of_lt hfits
  · cases h

theorem size_le_of_addWord? {a b : UInt64} (h : addWord? a b = none) :
    UInt64.size ≤ a.toNat + b.toNat := by
  unfold addWord? at h
  split at h
  · cases h
  · next hlong => exact Nat.le_of_not_lt hlong

variable (d : Duration) (k : UInt32)

/-- The nanoseconds of a multiple before they are carried over, in one word. -/
def nanosWord : UInt64 := UInt64.ofNat d.nanos * k.toUInt64

/-- The seconds of a multiple with what is carried over, if they are one word. -/
def secsWord? : Option UInt64 :=
  (mulWord? (.ofNat d.secs) k.toUInt64).bind (addWord? · (d.nanosWord k / 1000000000))

/-- A multiple of a duration, computed in words. The multiplication of the nanoseconds would wrap
round. -/
def mulInWords : Duration :=
  match d.secsWord? k with
  | some secs =>
    ⟨secs.toNat, (d.nanosWord k % 1000000000).toNat, secs.toNat_lt, by
      rw [UInt64.toNat_mod]; exact Nat.mod_lt _ (by decide)⟩
  | none => max

/-- A number of nanoseconds below a second has thirty bits, so its product with 32 bits is a
word. -/
theorem nanos_mul_lt : d.nanos * k.toNat < UInt64.size := by
  have hbound : d.nanos * k.toNat ≤ 1000000000 * UInt32.size :=
    Nat.mul_le_mul (Nat.le_of_lt d.nanos_lt) (Nat.le_of_lt k.toNat_lt)
  exact Nat.lt_of_le_of_lt hbound (by decide)

theorem toNat_nanosWord : (d.nanosWord k).toNat = d.nanos * k.toNat := by
  have hnanos : d.nanos < UInt64.size := Nat.lt_trans d.nanos_lt (by decide)
  have hword : (UInt64.ofNat d.nanos).toNat = d.nanos := UInt64.toNat_ofNat_of_lt' hnanos
  rw [nanosWord, UInt64.toNat_mul, hword, UInt32.toNat_toUInt64]
  exact Nat.mod_eq_of_lt (d.nanos_mul_lt k)

/-- The seconds of a multiple are a word exactly if the multiple is no longer than the longest
duration. -/
theorem secsWord?_cases :
    (∃ secs, d.secsWord? k = some secs ∧
      secs.toNat = d.secs * k.toNat + d.nanos * k.toNat / 1000000000) ∨
    (d.secsWord? k = none ∧
      UInt64.size ≤ d.secs * k.toNat + d.nanos * k.toNat / 1000000000) := by
  have hsecs : (UInt64.ofNat d.secs).toNat = d.secs := UInt64.toNat_ofNat_of_lt' d.secs_lt
  have hcarry : (d.nanosWord k / 1000000000).toNat = d.nanos * k.toNat / 1000000000 := by
    rw [UInt64.toNat_div, toNat_nanosWord]
    rfl
  unfold secsWord?
  cases hmul : mulWord? (.ofNat d.secs) k.toUInt64 with
  | none =>
    have hlong := size_le_of_mulWord? hmul
    rw [hsecs, UInt32.toNat_toUInt64] at hlong
    exact .inr ⟨rfl, Nat.le_add_right_of_le hlong⟩
  | some product =>
    have hproduct := toNat_of_mulWord? hmul
    rw [hsecs, UInt32.toNat_toUInt64] at hproduct
    rw [Option.bind_some]
    cases hadd : addWord? product (d.nanosWord k / 1000000000) with
    | none =>
      have hlong := size_le_of_addWord? hadd
      rw [hproduct, hcarry] at hlong
      exact .inr ⟨rfl, hlong⟩
    | some secs =>
      refine .inl ⟨secs, rfl, ?_⟩
      rw [toNat_of_addWord? hadd, hproduct, hcarry]

/-- In words it comes to the same. -/
theorem mulInWords_eq : d.mulInWords k = d.saturatingMul k.toNat := by
  unfold mulInWords saturatingMul ofParts
  rcases d.secsWord?_cases k with ⟨secs, hsecs, hexact⟩ | ⟨hnone, hlong⟩
  · have hfits : d.secs * k.toNat + d.nanos * k.toNat / 1000000000 < UInt64.size :=
      hexact ▸ secs.toNat_lt
    simp only [hsecs, dif_pos hfits, hexact, UInt64.toNat_mod, toNat_nanosWord]
    rfl
  · rw [hnone, dif_neg (Nat.not_lt.2 hlong)]

end Duration

namespace RetryPolicy

/-! ## The factor -/

/-- The factor is a power of two as long as that has 32 bits. -/
theorem factor_eq (k : Nat) : factor k = min (2 ^ (max k 1 - 1)) (UInt32.size - 1) := by
  have hpred : max k 1 - 1 = k - 1 := by omega
  unfold factor
  rw [hpred]
  split
  · next hsmall =>
    have hpow : 2 ^ (k - 1) ≤ 2 ^ 31 := Nat.pow_le_pow_right (by decide) (by omega)
    rw [Nat.one_shiftLeft, min_eq_left (Nat.le_trans hpow (by decide))]
  · next hlarge =>
    have hpow : 2 ^ 32 ≤ 2 ^ (k - 1) := Nat.pow_le_pow_right (by decide) (by omega)
    rw [min_eq_right (Nat.le_trans (by decide) hpow)]

theorem factor_lt (k : Nat) : factor k < UInt32.size := by
  rw [factor_eq]
  exact Nat.lt_of_le_of_lt (min_le_right _ _) (by decide)

theorem factor_mono {j k : Nat} (h : j ≤ k) : factor j ≤ factor k := by
  rw [factor_eq, factor_eq]
  have hexponent : max j 1 - 1 ≤ max k 1 - 1 := by omega
  exact min_le_min_right _ (Nat.pow_le_pow_right (by decide) hexponent)

/-- Up to the attempt at which the bits end, the factor is the power itself. -/
theorem factor_of_le {k : Nat} (hk : 1 ≤ k) (h : k ≤ 32) : factor k = 2 ^ (k - 1) := by
  rw [factor, if_pos (by omega), Nat.one_shiftLeft]

/-- The attempts before one, in a word: none before the first. -/
def before (k : UInt32) : UInt32 := if k = 0 then 0 else k - 1

theorem toNat_before (k : UInt32) : (before k).toNat = k.toNat - 1 := by
  unfold before
  split
  · next hzero =>
    rw [hzero]
    rfl
  · next hpos =>
    have hne : k.toNat ≠ 0 := fun h => hpos (UInt32.toNat_inj.1 h)
    have hone : 1 ≤ k := UInt32.le_iff_toNat_le.2 (Nat.one_le_iff_ne_zero.2 hne)
    exact UInt32.toNat_sub_of_le _ _ hone

/-- The factor, computed in a word: a bit is shifted as long as it stays in the word. -/
def factorWord (k : UInt32) : UInt32 :=
  if before k < 32 then 1 <<< before k else .ofNat (UInt32.size - 1)

theorem toNat_factorWord (k : UInt32) : (factorWord k).toNat = factor k.toNat := by
  have hiff : before k < 32 ↔ k.toNat - 1 < 32 := by
    rw [UInt32.lt_iff_toNat_lt, toNat_before]
    rfl
  unfold factorWord factor
  by_cases hsmall : k.toNat - 1 < 32
  · have hpow : 2 ^ (k.toNat - 1) ≤ 2 ^ 31 := Nat.pow_le_pow_right (by decide) (by omega)
    rw [if_pos (hiff.2 hsmall), if_pos hsmall, UInt32.toNat_shiftLeft, toNat_before,
      Nat.mod_eq_of_lt hsmall]
    refine Nat.mod_eq_of_lt ?_
    show 1 <<< (k.toNat - 1) < _
    rw [Nat.one_shiftLeft]
    exact Nat.lt_of_le_of_lt hpow (by decide)
  · rw [if_neg (mt hiff.1 hsmall), if_neg hsmall]
    rfl

/-! ## The law -/

/-- The wait after attempt number `k`, as it is computed and against those after other attempts. -/
structure BackoffLaw (p : RetryPolicy) (k : UInt32) : Prop where
  /-- It is the duration of the exact product, or the longest one if the product is longer. -/
  exact (d : Duration) : p.delayAfter k.toNat = d ↔ d.toNanos =
    min (p.delay.toNanos * min (2 ^ (max k.toNat 1 - 1)) (UInt32.size - 1)) Duration.max.toNanos
  /-- What is left of the nanoseconds is less than a second. -/
  normalised : (p.delayAfter k.toNat).nanos < 1000000000
  /-- The factor has 32 bits and the nanoseconds have 64, so nothing that is not checked
  overflows, ... -/
  fits : factor k.toNat < UInt32.size ∧ p.delay.nanos * factor k.toNat < UInt64.size
  /-- ... and words of these widths give the same wait. -/
  words : p.delay.mulInWords (factorWord k) = p.delayAfter k.toNat
  /-- It is no shorter than the wait after an earlier attempt, also in whole milliseconds. -/
  monotone : ∀ j ≤ k, (p.delayAfter j.toNat).toNanos ≤ (p.delayAfter k.toNat).toNanos ∧
    (p.delayAfter j.toNat).ceilMillis ≤ (p.delayAfter k.toNat).ceilMillis
  /-- Twice as long is the next one, as long as neither the factor nor the product is cut. -/
  doubles : 1 ≤ k.toNat → k.toNat ≤ 31 →
    p.delay.toNanos * 2 ^ k.toNat ≤ Duration.max.toNanos →
    (p.delayAfter (k + 1).toNat).toNanos = 2 * (p.delayAfter k.toNat).toNanos

/-- The waits of a policy are exact multiples of its delay, of any length and after any attempt. -/
theorem backoff_law (p : RetryPolicy) (k : UInt32) : BackoffLaw p k where
  exact d := by
    rw [← Duration.toNanos_inj, delayAfter, Duration.toNanos_saturatingMul, factor_eq]
    exact eq_comm
  normalised := (p.delayAfter k.toNat).nanos_lt
  fits := ⟨factor_lt _, toNat_factorWord k ▸ p.delay.nanos_mul_lt (factorWord k)⟩
  words := by rw [Duration.mulInWords_eq, toNat_factorWord, delayAfter]
  monotone j hj := by
    have hfactor : factor j.toNat ≤ factor k.toNat := factor_mono (UInt32.le_iff_toNat_le.1 hj)
    have hdelay : (p.delayAfter j.toNat).toNanos ≤ (p.delayAfter k.toNat).toNanos :=
      p.delay.toNanos_saturatingMul_mono hfactor
    exact ⟨hdelay, Duration.ceilMillis_mono hdelay⟩
  doubles hone hle huncut := by
    have hnext : (k + 1).toNat = k.toNat + 1 := by
      rw [UInt32.toNat_add]
      exact Nat.mod_eq_of_lt (Nat.lt_of_le_of_lt (Nat.add_le_add_right hle 1) (by decide))
    have hdouble : 2 ^ k.toNat = 2 * 2 ^ (k.toNat - 1) := by
      rw [← Nat.pow_succ', Nat.succ_eq_add_one, Nat.sub_add_cancel hone]
    rw [hnext, delayAfter, delayAfter, Duration.toNanos_saturatingMul,
      Duration.toNanos_saturatingMul, factor_of_le hone (by omega),
      factor_of_le (by omega) (by omega), Nat.add_sub_cancel]
    rw [hdouble, Nat.mul_left_comm] at huncut ⊢
    rw [min_eq_left huncut, min_eq_left (by omega)]

/-- After the 32nd attempt the factor doubles no more: it has all bits set. -/
example : (ofAttempts 40 ⟨1, 0, by decide, by decide⟩).delayAfter 33 =
    ⟨4294967295, 0, by decide, by decide⟩ := by decide

end RetryPolicy

end MessageBus
