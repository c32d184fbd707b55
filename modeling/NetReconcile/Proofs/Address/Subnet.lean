import Mathlib.Algebra.Group.Nat.Defs
import Mathlib.Data.List.TakeWhile
import NetReconcile.Address.IPv4

/-!
# The masks of subnets

A mask is accepted if the ones at its start and the zeros at its end add up to all of its bits.
These are the masks that are a number of ones and then zeros only, 33 in all. As numbers they are
the differences of `2 ^ 32` and a power of two that is not larger.

## Main definitions

* `IPv4.IsSubnetMask`: the mask is a number of ones and then zeros only.

## Main statements

* `IPv4.isContiguousMask_iff`: the masks that are accepted are the masks of subnets.
-/

namespace NetReconcile.IPv4

/-! ### Ones and then zeros, as a list of bits -/

/-- A last bit that does not fit is not taken. -/
theorem takeWhile_concat_of_not {p : Bool → Bool} {l : List Bool} {b : Bool} (h : p b = false) :
    (l ++ [b]).takeWhile p = l.takeWhile p := by
  rw [List.takeWhile_append]
  split
  · rename_i hall
    rw [List.takeWhile_cons_of_neg (by simp [h]), List.append_nil,
      (List.takeWhile_prefix p).eq_of_length hall]
  · rfl

/-- All bits are zeros if the zeros at the start are as many as the bits. -/
theorem length_takeWhile_not_eq_iff (l : List Bool) :
    (l.takeWhile (!·)).length = l.length ↔ l = List.replicate l.length false := by
  rw [List.eq_replicate_iff]
  constructor
  · intro h
    refine ⟨rfl, fun b hb ↦ ?_⟩
    have hall := List.takeWhile_eq_self_iff.1 ((List.takeWhile_prefix _).eq_of_length h)
    simpa using hall b hb
  · rintro ⟨-, hall⟩
    rw [List.takeWhile_eq_self_iff.2 fun b hb ↦ by simp [hall b hb]]

/-- The ones at the start and the zeros at the end of a list are all of it exactly if nothing else
stands between them. -/
theorem length_ones_add_length_zeros_eq_iff (l : List Bool) :
    (l.takeWhile id).length + (l.reverse.takeWhile (!·)).length = l.length ↔
      ∃ n ≤ l.length, l = List.replicate n true ++ List.replicate (l.length - n) false := by
  induction l with
  | nil => simp
  | cons b l ih =>
    cases b with
    | true =>
      -- a one at the start is not counted from the end, so the rest of the list decides
      have hstep : ((true :: l).takeWhile id).length +
            ((true :: l).reverse.takeWhile (!·)).length = (true :: l).length ↔
          (l.takeWhile id).length + (l.reverse.takeWhile (!·)).length = l.length := by
        rw [List.takeWhile_cons_of_pos rfl, List.reverse_cons, takeWhile_concat_of_not rfl,
          List.length_cons, List.length_cons]
        omega
      rw [hstep, ih]
      constructor
      · rintro ⟨n, hn, hl⟩
        refine ⟨n + 1, by simpa using hn, ?_⟩
        rw [List.length_cons, Nat.add_sub_add_right, List.replicate_succ, List.cons_append, ← hl]
      · rintro ⟨_ | n, hn, hl⟩
        · simp [List.replicate_succ] at hl
        · rw [List.length_cons, Nat.add_sub_add_right, List.replicate_succ, List.cons_append,
            List.cons.injEq] at hl
          exact ⟨n, by simpa using hn, hl.2⟩
    | false =>
      -- there are no ones at the start, so all bits have to be zeros
      have hstep : ((false :: l).takeWhile id).length +
            ((false :: l).reverse.takeWhile (!·)).length = (false :: l).length ↔
          false :: l = List.replicate (false :: l).length false := by
        have hrev := length_takeWhile_not_eq_iff (false :: l).reverse
        rw [List.reverse_eq_iff, List.reverse_replicate, List.length_reverse] at hrev
        rw [List.takeWhile_cons_of_neg (by simp), List.length_nil, Nat.zero_add, hrev]
      rw [hstep]
      constructor
      · intro hl
        exact ⟨0, Nat.zero_le _, hl⟩
      · rintro ⟨_ | n, hn, hl⟩
        · exact hl
        · simp [List.replicate_succ] at hl

/-! ### Masks -/

/-- A mask has `n` ones and then zeros only, for some `n`. -/
def IsSubnetMask (mask : IPv4) : Prop :=
  ∃ n ≤ 32, mask.bits.toNat = 2 ^ 32 - 2 ^ (32 - n)

theorem length_bitList (mask : IPv4) : mask.bitList.length = 32 := by
  simp [bitList]

/-- The bits of a mask are ones and then zeros exactly if the mask is all ones, shifted. -/
theorem bitList_eq_iff {mask : IPv4} {n : Nat} (hn : n ≤ 32) :
    mask.bitList = List.replicate n true ++ List.replicate (32 - n) false ↔
      mask.bits = BitVec.allOnes 32 <<< (32 - n) := by
  have hshift (i : Nat) (_ : i < 32) :
      (BitVec.allOnes 32 <<< (32 - n)).getMsbD i = decide (i < n) := by
    rw [BitVec.getMsbD_shiftLeft, BitVec.getMsbD_allOnes]
    simp only [decide_eq_decide]
    omega
  have hlist : List.replicate n true ++ List.replicate (32 - n) false =
      (List.range 32).map fun i ↦ decide (i < n) := by
    refine List.ext_getElem (by simp; omega) fun i _ _ ↦ ?_
    rw [List.getElem_append, List.getElem_map, List.getElem_range]
    split
    · rename_i hlt
      rw [List.getElem_replicate, eq_comm, decide_eq_true_iff]
      simpa using hlt
    · rename_i hge
      rw [List.getElem_replicate, eq_comm, decide_eq_false_iff_not]
      simpa using hge
  rw [hlist, bitList, List.map_inj_left]
  constructor
  · intro h
    refine BitVec.eq_of_getMsbD_eq fun i hi ↦ ?_
    rw [h i (List.mem_range.2 hi), hshift i hi]
  · intro h i hi
    rw [h, hshift i (List.mem_range.1 hi)]

/-- A mask as a number. -/
theorem toNat_allOnes_shiftLeft (n : Nat) :
    (BitVec.allOnes 32 <<< (32 - n)).toNat = 2 ^ 32 - 2 ^ (32 - n) := by
  have hall : ∀ k ≤ 32, ((2 ^ 32 - 1) <<< k) % 2 ^ 32 = 2 ^ 32 - 2 ^ k := by decide
  rw [BitVec.toNat_shiftLeft, BitVec.toNat_allOnes]
  exact hall (32 - n) (Nat.sub_le 32 n)

/-- The masks that are accepted are those of subnets, and no others. -/
theorem isContiguousMask_iff (mask : IPv4) :
    mask.isContiguousMask = true ↔ mask.IsSubnetMask := by
  have hbits := length_ones_add_length_zeros_eq_iff mask.bitList
  rw [length_bitList] at hbits
  rw [isContiguousMask, decide_eq_true_iff, leadingOnes, trailingZeros, hbits, IsSubnetMask]
  constructor
  · rintro ⟨n, hn, hl⟩
    exact ⟨n, hn, by rw [(bitList_eq_iff hn).1 hl, toNat_allOnes_shiftLeft n]⟩
  · rintro ⟨n, hn, hm⟩
    refine ⟨n, hn, (bitList_eq_iff hn).2 (BitVec.eq_of_toNat_eq ?_)⟩
    rw [hm, toNat_allOnes_shiftLeft n]

end NetReconcile.IPv4
