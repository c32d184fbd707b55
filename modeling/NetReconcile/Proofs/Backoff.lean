import Mathlib.Algebra.Group.Nat.Defs
import Mathlib.Logic.Function.Iterate
import NetReconcile.Backoff

/-!
# The bound of a wait, in numbers without limit

The bound is computed in words: doubling stops after 63 attempts, and the product stops at the
largest word. Neither is seen in the result as long as the cap is at most `2 ^ 63`. A product that
was cut off is the largest word, which no cap exceeds; and where doubling has stopped, every base
but zero has been doubled to `2 ^ 63` at least, which is the cap or more.

## Main definitions

* `Backoff.Bounded`: what is known of the bound, and of the attempts that are counted.

## Main statements

* `Backoff.maxWaitMs_eq`: the product is never seen to stop.
* `Backoff.bounded`: the bound is the doubled base or the cap, never falls, and is zero only if one
  of the two is.
-/

namespace NetReconcile.Backoff

variable {b : Backoff}

/-! ### The bound -/

/-- The cap is a word itself, so that the product stops at the largest word is never seen. -/
theorem maxWaitMs_eq (b : Backoff) :
    b.maxWaitMs = min b.capMs.toNat (b.baseMs.toNat * 2 ^ min b.attempt.toNat 63) := by
  have hcap : b.capMs.toNat ≤ UInt64.size - 1 := Nat.le_sub_one_of_lt b.capMs.toNat_lt
  rw [maxWaitMs, saturatingMul, Nat.one_shiftLeft, Nat.min_comm _ (UInt64.size - 1),
    ← Nat.min_assoc, Nat.min_eq_left hcap]

/-- A base that is not zero has grown to `2 ^ 63` when doubling stops. -/
theorem two_pow_le_mul {base n : Nat} (hbase : base ≠ 0) (hn : 63 ≤ n) :
    2 ^ 63 ≤ base * 2 ^ n :=
  calc
    2 ^ 63 ≤ 2 ^ n := Nat.pow_le_pow_right Nat.two_pos hn
    _ ≤ base * 2 ^ n := Nat.le_mul_of_pos_left _ (Nat.pos_of_ne_zero hbase)

/-- Up to a cap of `2 ^ 63`, that doubling stops is not seen either. -/
theorem maxWaitMs_eq_of_le (hcap : b.capMs.toNat ≤ 2 ^ 63) :
    b.maxWaitMs = min b.capMs.toNat (b.baseMs.toNat * 2 ^ b.attempt.toNat) := by
  rw [maxWaitMs_eq]
  rcases Nat.le_total b.attempt.toNat 63 with hfew | hmany
  · rw [Nat.min_eq_left hfew]
  · rw [Nat.min_eq_right hmany]
    by_cases hbase : b.baseMs.toNat = 0
    · rw [hbase, Nat.zero_mul, Nat.zero_mul]
    · have hgrown := Nat.le_trans hcap (two_pow_le_mul hbase hmany)
      have hstopped := Nat.le_trans hcap (two_pow_le_mul hbase (Nat.le_refl 63))
      rw [Nat.min_eq_left hstopped, Nat.min_eq_left hgrown]

/-- No wait is longer than the cap. -/
theorem maxWaitMs_le_capMs (b : Backoff) : b.maxWaitMs ≤ b.capMs.toNat :=
  Nat.min_le_left _ _

/-- The bound does not fall when more attempts are made. -/
theorem maxWaitMs_mono {attempt : UInt32} (h : b.attempt ≤ attempt) :
    b.maxWaitMs ≤ { b with attempt := attempt }.maxWaitMs := by
  have hle : min b.attempt.toNat 63 ≤ min attempt.toNat 63 := by
    have := UInt32.le_iff_toNat_le.1 h
    omega
  have hdoubled := Nat.mul_le_mul_left b.baseMs.toNat (Nat.pow_le_pow_right Nat.two_pos hle)
  rw [maxWaitMs_eq, maxWaitMs_eq]
  exact Nat.le_min.2 ⟨Nat.min_le_left _ _, Nat.le_trans (Nat.min_le_right _ _) hdoubled⟩

/-- There is no wait only where the base or the cap is zero. Doubling never comes to zero. -/
theorem maxWaitMs_eq_zero_iff : b.maxWaitMs = 0 ↔ b.baseMs = 0 ∨ b.capMs = 0 := by
  have hpow : 2 ^ min b.attempt.toNat 63 ≠ 0 := Nat.ne_of_gt (Nat.two_pow_pos _)
  have hzero (w : UInt64) : w.toNat = 0 ↔ w = 0 := by
    rw [← UInt64.toNat_inj, UInt64.toNat_zero]
  rw [maxWaitMs_eq, Nat.min_eq_zero_iff, Nat.mul_eq_zero, or_iff_left hpow, hzero, hzero, or_comm]

/-! ### Counting attempts -/

/-- Attempts are counted up to the largest word. -/
theorem toNat_attempt_iterate_wait (b : Backoff) (n : Nat) :
    (wait^[n] b).attempt.toNat = min (2 ^ 32 - 1) (b.attempt.toNat + n) := by
  induction n with
  | zero =>
    have := b.attempt.toNat_lt
    simp only [Function.iterate_zero_apply]
    omega
  | succ n ih =>
    have hstep : (wait^[n + 1] b).attempt = succ (wait^[n] b).attempt := by
      rw [Function.iterate_succ_apply']
      rfl
    rw [hstep, toNat_succ, ih]
    simp only [UInt32.size]
    omega

/-! ### What is known of waits -/

/-- What is known of the next wait, and of the attempts that are counted. -/
structure Bounded (b : Backoff) : Prop where
  /-- The bound is the doubled base, or the cap if that is smaller. -/
  eq_min : b.capMs.toNat ≤ 2 ^ 63 →
    b.maxWaitMs = min b.capMs.toNat (b.baseMs.toNat * 2 ^ b.attempt.toNat)
  le_capMs : b.maxWaitMs ≤ b.capMs.toNat
  /-- After more attempts the bound is not smaller. -/
  mono : ∀ attempt, b.attempt ≤ attempt → b.maxWaitMs ≤ { b with attempt := attempt }.maxWaitMs
  eq_zero_iff : b.maxWaitMs = 0 ↔ b.baseMs = 0 ∨ b.capMs = 0
  toNat_attempt : ∀ n, (wait^[n] b).attempt.toNat = min (2 ^ 32 - 1) (b.attempt.toNat + n)

/-- The bound of a wait is the doubled base as far as the cap allows, whatever words the base, the
cap and the number of attempts are. -/
theorem bounded (b : Backoff) : b.Bounded where
  eq_min := maxWaitMs_eq_of_le
  le_capMs := b.maxWaitMs_le_capMs
  mono _ := maxWaitMs_mono
  eq_zero_iff := maxWaitMs_eq_zero_iff
  toNat_attempt := b.toNat_attempt_iterate_wait

/-- Above a cap of `2 ^ 63`, it is seen that doubling stops. -/
example : maxWaitMs { attempt := 64, baseMs := 1, capMs := 0xffffffffffffffff } = 2 ^ 63 := by
  decide

end NetReconcile.Backoff
