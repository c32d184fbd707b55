import Mathlib.Tactic.SplitIfs
import Mathlib.Tactic.ByContra
import NetReconcile.Proofs.Text.Bytes

/-!
# The order of texts and the order of their bytes

Texts are ordered by the code points of their characters. The same order is found when their UTF-8
bytes are compared: a character with a larger code point has an encoding that is larger at the first
byte in which the two differ, also where the two have different lengths, and such a byte always
comes before either encoding ends.

## Main statements

* `Text.toBytes_lt_toBytes_iff`: texts and their UTF-8 bytes are in the same order.
-/

namespace NetReconcile.Text

/-! ### Characters -/

/-- Bytes are ordered as their numbers. -/
theorem ofNat_lt_ofNat_iff {m n : Nat} (hm : m < 256) (hn : n < 256) :
    UInt8.ofNat m < UInt8.ofNat n ↔ m < n := by
  rw [UInt8.lt_iff_toNat_lt, UInt8.toNat_ofNat_of_lt' hm, UInt8.toNat_ofNat_of_lt' hn]

theorem ofNat_inj_iff {m n : Nat} (hm : m < 256) (hn : n < 256) :
    UInt8.ofNat m = UInt8.ofNat n ↔ m = n := by
  rw [← UInt8.toNat_inj, UInt8.toNat_ofNat_of_lt' hm, UInt8.toNat_ofNat_of_lt' hn]

/-- A character with a larger code point has a larger encoding, whatever follows it. -/
theorem utf8EncodeChar_append_lt {c d : Char} (h : c < d) (s t : List UInt8) :
    String.utf8EncodeChar c ++ s < String.utf8EncodeChar d ++ t := by
  have hval : c.val.toNat < d.val.toNat := h
  have hmax : d.val.toNat < 0x110000 := by
    rcases d.valid with hd | ⟨-, hd⟩
    · exact Nat.lt_trans hd (by decide)
    · exact hd
  unfold String.utf8EncodeChar
  generalize c.val.toNat = m at *
  generalize d.val.toNat = n at *
  -- the bits of a character are taken six at a time
  have hsix (k : Nat) : k / 4096 = k / 64 / 64 := by rw [Nat.div_div_eq_div_mul]
  have hsix' (k : Nat) : k / 262144 = k / 64 / 64 / 64 := by
    rw [Nat.div_div_eq_div_mul, Nat.div_div_eq_div_mul]
  simp only [hsix, hsix']
  -- one case for each pair of lengths; if the longer encoding is that of `c` there is no such `c`
  split_ifs
  all_goals
    simp (disch := omega) only [List.cons_append, List.nil_append, List.cons_lt_cons_iff,
      ofNat_lt_ofNat_iff, ofNat_inj_iff]
    omega

/-! ### Texts -/

/-- Characters in order have encodings in order, at the first place where they differ. -/
theorem flatMap_utf8EncodeChar_lt {cs ds : List Char} (h : cs < ds) :
    cs.flatMap String.utf8EncodeChar < ds.flatMap String.utf8EncodeChar := by
  induction h with
  | nil =>
    rename_i d ds
    rw [List.flatMap_nil, List.flatMap_cons]
    obtain ⟨b, bs, hb⟩ := List.exists_cons_of_ne_nil (String.utf8EncodeChar_ne_nil (c := d))
    rw [hb]
    exact List.nil_lt_cons _ _
  | rel hlt =>
    rw [List.flatMap_cons, List.flatMap_cons]
    exact utf8EncodeChar_append_lt hlt _ _
  | cons h ih =>
    rw [List.flatMap_cons, List.flatMap_cons]
    exact List.append_left_lt ih

/-- Texts and their UTF-8 bytes are in the same order. -/
theorem toBytes_lt_toBytes_iff {s t : String} : toBytes s < toBytes t ↔ s < t := by
  have hmono {s t : String} (h : s < t) : toBytes s < toBytes t := by
    rw [toBytes_eq, toBytes_eq]
    exact flatMap_utf8EncodeChar_lt h
  refine ⟨fun h ↦ ?_, hmono⟩
  by_contra hnot
  by_cases hlt : t < s
  · exact List.lt_asymm h (hmono hlt)
  · obtain rfl : s = t := String.le_antisymm hlt hnot
    exact List.lt_irrefl _ h

end NetReconcile.Text
