import Mathlib.Order.Bounds.Basic
import NetReconcile.Proofs.Address.Subnet

/-!
# The last address of a subnet

A mask of `n` ones keeps the first `n` bits of an address, so the addresses of which it keeps the
same are those between two multiples of `2 ^ (32 - n)`. The broadcast address is the last of them:
it has the same first bits, and ones after them.

## Main definitions

* `IPv4.SameSubnet`: a mask keeps the same of two addresses.
* `IPv4.IsLastOfSubnet`: an address is the last one of a subnet.

## Main statements

* `IPv4.sameSubnet_iff`: subnets are the stretches between multiples of a power of two.
* `IPv4.subnets_of_mask`: what masks are accepted, and the broadcast addresses under them.

Words are turned into numbers once, for the three operations that occur: a mask is a shift of all
ones, masking an address is a quotient that is multiplied up again, and the complement of a mask is
a power of two less one. Subnets are compared as quotients from then on.
-/

namespace NetReconcile.IPv4

variable {mask a b : IPv4} {n : Nat}

/-- A mask keeps the same of two addresses. -/
def SameSubnet (mask a b : IPv4) : Prop :=
  a.bits &&& mask.bits = b.bits &&& mask.bits

/-- A mask with `n` ones at its start. -/
def HasOnes (mask : IPv4) (n : Nat) : Prop :=
  n ≤ 32 ∧ mask.bits.toNat = 2 ^ 32 - 2 ^ (32 - n)

/-! ### Masks as shifts -/

/-- A mask of a number of ones is determined by that number. -/
theorem HasOnes.bits_eq (h : mask.HasOnes n) : mask.bits = BitVec.allOnes 32 <<< (32 - n) :=
  BitVec.eq_of_toNat_eq (h.2.trans (toNat_allOnes_shiftLeft n).symm)

/-- What a mask keeps of an address is the address without its last bits. -/
theorem and_allOnes_shiftLeft (x : BitVec 32) (k : Nat) :
    x &&& BitVec.allOnes 32 <<< k = x >>> k <<< k := by
  refine BitVec.eq_of_getLsbD_eq fun i hi ↦ ?_
  rw [BitVec.getLsbD_and, BitVec.getLsbD_shiftLeft, BitVec.getLsbD_shiftLeft,
    BitVec.getLsbD_ushiftRight, BitVec.getLsbD_allOnes]
  by_cases hk : i < k
  · simp [hk]
  · have hlt : i - k < 32 := by omega
    have hadd : k + (i - k) = i := by omega
    simp [hk, hi, hlt, hadd]

theorem toNat_ushiftRight_shiftLeft (x : BitVec 32) (k : Nat) :
    (x >>> k <<< k).toNat = x.toNat / 2 ^ k * 2 ^ k := by
  have hle : x.toNat / 2 ^ k * 2 ^ k ≤ x.toNat := Nat.div_mul_le_self _ _
  rw [BitVec.toNat_shiftLeft, BitVec.toNat_ushiftRight, Nat.shiftRight_eq_div_pow,
    Nat.shiftLeft_eq, Nat.mod_eq_of_lt (hle.trans_lt x.isLt)]

/-- Two addresses are in one subnet exactly if they are between the same multiples. -/
theorem sameSubnet_iff (h : mask.HasOnes n) :
    SameSubnet mask a b ↔ a.bits.toNat / 2 ^ (32 - n) = b.bits.toNat / 2 ^ (32 - n) := by
  rw [SameSubnet, h.bits_eq, and_allOnes_shiftLeft, and_allOnes_shiftLeft, ← BitVec.toNat_inj,
    toNat_ushiftRight_shiftLeft, toNat_ushiftRight_shiftLeft,
    Nat.mul_left_inj (Nat.two_pow_pos _).ne']

/-! ### The last address -/

/-- Setting all bits after the first ones. -/
theorem or_two_pow_sub_one (x k : Nat) : x ||| (2 ^ k - 1) = x / 2 ^ k * 2 ^ k + (2 ^ k - 1) := by
  refine Nat.eq_of_testBit_eq fun i ↦ ?_
  rw [Nat.testBit_or, Nat.testBit_two_pow_sub_one, Nat.mul_comm,
    Nat.testBit_two_pow_mul_add _ (Nat.sub_one_lt (Nat.two_pow_pos k).ne'),
    Nat.testBit_two_pow_sub_one, Nat.testBit_div_two_pow]
  by_cases hi : i < k
  · simp [hi]
  · rw [if_neg hi, decide_eq_false hi, Bool.or_false, Nat.sub_add_cancel (Nat.not_lt.1 hi)]

/-- The complement of a mask has ones exactly below the mask. -/
theorem HasOnes.toNat_not (h : mask.HasOnes n) : (~~~mask.bits).toNat = 2 ^ (32 - n) - 1 := by
  have hle : 2 ^ (32 - n) ≤ 2 ^ 32 := Nat.pow_le_pow_right Nat.two_pos (Nat.sub_le 32 n)
  have hpos := Nat.two_pow_pos (32 - n)
  rw [BitVec.toNat_not, h.2]
  omega

/-- The broadcast address has the first bits of the address, and ones below them. -/
theorem HasOnes.toNat_broadcast (h : mask.HasOnes n) (a : IPv4) :
    (a.broadcast mask).bits.toNat =
      a.bits.toNat / 2 ^ (32 - n) * 2 ^ (32 - n) + (2 ^ (32 - n) - 1) := by
  rw [broadcast, BitVec.toNat_or, h.toNat_not, or_two_pow_sub_one]

/-- An address is the last one of the subnet of an address, under a mask with `n` ones. -/
structure IsLastOfSubnet (mask : IPv4) (n : Nat) (a last : IPv4) : Prop where
  /-- No address of which the mask keeps the same is greater. -/
  isGreatest : IsGreatest {x : BitVec 32 | SameSubnet mask ⟨x⟩ a} last.bits
  /-- It comes right before a multiple of the size of the subnet. -/
  toNat_eq : last.bits.toNat = a.bits.toNat / 2 ^ (32 - n) * 2 ^ (32 - n) + 2 ^ (32 - n) - 1
  le : a.bits ≤ last.bits

/-- An address is at most the last one before the next multiple. -/
theorem le_of_div_eq {x y k : Nat} (h : x / 2 ^ k = y / 2 ^ k) :
    x ≤ y / 2 ^ k * 2 ^ k + (2 ^ k - 1) := by
  have hsplit := Nat.div_add_mod' x (2 ^ k)
  have hrest := Nat.mod_lt x (Nat.two_pow_pos k)
  rw [h] at hsplit
  omega

/-- It is in the subnet, and no address of the subnet is larger. -/
theorem HasOnes.isLastOfSubnet_broadcast (h : mask.HasOnes n) (a : IPv4) :
    IsLastOfSubnet mask n a (a.broadcast mask) := by
  have hpos := Nat.two_pow_pos (32 - n)
  have hlast := h.toNat_broadcast a
  refine ⟨⟨?_, fun x hx ↦ ?_⟩, ?_, ?_⟩
  · show SameSubnet mask (a.broadcast mask) a
    rw [sameSubnet_iff h, hlast, Nat.mul_comm, Nat.mul_add_div hpos,
      Nat.div_eq_of_lt (Nat.sub_one_lt hpos.ne'), Nat.add_zero]
  · have hx' : SameSubnet mask ⟨x⟩ a := hx
    rw [BitVec.le_def, hlast]
    exact le_of_div_eq ((sameSubnet_iff h).1 hx')
  · rw [hlast, Nat.add_sub_assoc hpos]
  · rw [BitVec.le_def, hlast]
    exact le_of_div_eq rfl

/-- The last address tells the subnet. -/
theorem HasOnes.broadcast_eq_iff (h : mask.HasOnes n) :
    a.broadcast mask = b.broadcast mask ↔ SameSubnet mask a b := by
  have hbits : a.broadcast mask = b.broadcast mask ↔
      (a.broadcast mask).bits.toNat = (b.broadcast mask).bits.toNat := by
    rw [BitVec.toNat_inj]
    exact ⟨fun heq ↦ congrArg bits heq, fun heq ↦ congrArg IPv4.mk heq⟩
  rw [hbits, h.toNat_broadcast, h.toNat_broadcast, Nat.add_right_cancel_iff,
    Nat.mul_left_inj (Nat.two_pow_pos _).ne', sameSubnet_iff h]

/-- The masks that are accepted are those with some number of ones and then zeros only, and under
each of them the broadcast address is the last one of the subnet and tells the subnet. -/
theorem subnets_of_mask (mask : IPv4) :
    (mask.isContiguousMask = true ↔ ∃ n, mask.HasOnes n) ∧
      ∀ n, mask.HasOnes n → ∀ a,
        IsLastOfSubnet mask n a (a.broadcast mask) ∧
          ∀ b, a.broadcast mask = b.broadcast mask ↔ SameSubnet mask a b :=
  ⟨mask.isContiguousMask_iff, fun _ h a ↦
    ⟨h.isLastOfSubnet_broadcast a, fun _ ↦ h.broadcast_eq_iff⟩⟩

/-- Under the mask 255.255.240.0, the subnet of 10.1.17.9 ends at 10.1.31.255. -/
theorem subnets_of_twentyOnes :
    HasOnes ⟨0xfffff000⟩ 20 ∧ IsLastOfSubnet ⟨0xfffff000⟩ 20 ⟨0x0a011109⟩ ⟨0x0a011fff⟩ ∧
      ¬SameSubnet ⟨0xfffff000⟩ ⟨0x0a011109⟩ ⟨0x0a012000⟩ := by
  have hones : HasOnes ⟨0xfffff000⟩ 20 := ⟨by decide, by decide⟩
  obtain ⟨hlast, htells⟩ := (subnets_of_mask ⟨0xfffff000⟩).2 20 hones ⟨0x0a011109⟩
  refine ⟨hones, hlast, fun hsame ↦ ?_⟩
  have hequal := (htells ⟨0x0a012000⟩).2 hsame
  revert hequal
  decide

end NetReconcile.IPv4
