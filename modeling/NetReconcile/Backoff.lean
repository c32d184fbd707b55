/-!
# Waiting longer and longer

Between two attempts the program waits a random time below a bound. The bound starts at a base,
doubles with every attempt and never exceeds a cap. Times are milliseconds in words of 64 bits, and
the number of attempts is a word of 32 bits; both stop at the largest value instead of wrapping, so
the bound never falls as attempts go on.
-/

namespace NetReconcile

/-- How many attempts there were, and the times that the next wait is computed from. -/
structure Backoff where
  attempt : UInt32 := 0
  baseMs : UInt64
  capMs : UInt64
  deriving DecidableEq, Repr

namespace Backoff

/-- The product of a word of 64 bits and a number, or the largest word if that is smaller. -/
def saturatingMul (w : UInt64) (n : Nat) : Nat :=
  min (w.toNat * n) (UInt64.size - 1)

/-- The bound of the next wait. Doubling stops after 63 attempts, where any base but zero has
reached the largest word or half of it. -/
def maxWaitMs (b : Backoff) : Nat :=
  min b.capMs.toNat (saturatingMul b.baseMs (1 <<< min b.attempt.toNat 63))

/-- The number after a number of attempts; the largest word stays. -/
def succ (attempt : UInt32) : UInt32 :=
  if attempt.toNat + 1 < UInt32.size then attempt + 1 else attempt

/-- The state after one more wait. -/
def wait (b : Backoff) : Backoff :=
  { b with attempt := succ b.attempt }

theorem toNat_succ (a : UInt32) : (succ a).toNat = min (a.toNat + 1) (UInt32.size - 1) := by
  unfold succ
  split
  · rename_i h
    rw [UInt32.toNat_add, UInt32.toNat_one, Nat.mod_eq_of_lt h]
    exact (Nat.min_eq_left (Nat.le_sub_one_of_lt h)).symm
  · rename_i h
    have := a.toNat_lt
    simp only [UInt32.size] at h ⊢
    omega

end Backoff

end NetReconcile
