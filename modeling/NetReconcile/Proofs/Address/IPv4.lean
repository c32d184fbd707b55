import NetReconcile.Address.IPv4
import NetReconcile.Proofs.Text.Digits
import NetReconcile.Proofs.Text.Separators

/-!
# Reading back IPv4 addresses

An address is read back from its written form. The written form has digits and dots only, so it is
never taken apart by the blanks of a line or the colons of a longer address; a text with a colon, on
the other hand, is no IPv4 address.

## Main statements

* `IPv4.ofChars?_chars`: an address is read back.
* `IPv4.ofChars?_eq_none_of_mem`: a text with any character but digits and dots is no address.
-/

namespace NetReconcile.IPv4

open Text

/-! ### Octets -/

/-- An address is made of its four octets. -/
theorem ofOctets_octets (x : IPv4) :
    ofOctets (x.bits.extractLsb' 24 8) (x.bits.extractLsb' 16 8) (x.bits.extractLsb' 8 8)
      (x.bits.extractLsb' 0 8) = x := by
  have hhigh : x.bits.extractLsb' 24 8 ++ x.bits.extractLsb' 16 8 = x.bits.extractLsb' 16 16 :=
    BitVec.extractLsb'_append_extractLsb'_eq_extractLsb' rfl
  have hmiddle : x.bits.extractLsb' 16 16 ++ x.bits.extractLsb' 8 8 = x.bits.extractLsb' 8 24 :=
    BitVec.extractLsb'_append_extractLsb'_eq_extractLsb' rfl
  have hall : x.bits.extractLsb' 8 24 ++ x.bits.extractLsb' 0 8 = x.bits.extractLsb' 0 32 :=
    BitVec.extractLsb'_append_extractLsb'_eq_extractLsb' rfl
  rw [ofOctets, hhigh, hmiddle, hall, BitVec.extractLsb'_eq_self]

/-- An octet is read back. -/
theorem octet?_decimal (o : BitVec 8) : octet? (decimal o.toNat) = some o := by
  have hlength : (decimal o.toNat).length ≤ 3 :=
    (Nat.length_toDigits_le_iff (by decide) (by decide)).2 (by omega)
  have hread : ((digits? 10 (decimal o.toNat)).filter (· < 256)).map (BitVec.ofNat 8) = some o := by
    rw [decimal, digits?_toDigits (by decide) (by decide),
      Option.filter_some_pos (by simp [o.isLt]), Option.map_some, BitVec.ofNat_toNat,
      BitVec.setWidth_eq]
  unfold octet?
  split
  · -- a leading zero stands for the whole number
    rename_i c cs hcons
    rcases Nat.eq_zero_or_pos o.toNat with hzero | hpos
    · rw [hzero] at hcons
      cases hcons
    · exact absurd (by rw [← decimal, hcons]; rfl) (head?_toDigits (by decide) (by decide) hpos)
  · rw [if_pos hlength, hread]

/-- A text with anything but digits is no octet. -/
theorem octet?_eq_none_of_mem {cs : List Char} {c : Char} (hc : c ∈ cs)
    (hnone : hexDigit? c = none) : octet? cs = none := by
  unfold octet?
  split
  · rfl
  · split
    · rw [digits?_eq_none_of_mem hc hnone]
      rfl
    · rfl

/-! ### Addresses -/

section

variable {x : IPv4} {c : Char} {cs : List Char}

/-- An address is read back from its written form. -/
theorem ofChars?_chars (x : IPv4) : ofChars? x.chars = some x := by
  have hsplit : x.chars.splitOn '.' = x.octets.map fun o ↦ decimal o.toNat := by
    refine List.splitOn_intercalate '.' (fun cs hcs ↦ ?_) (by simp [octets])
    obtain ⟨o, -, rfl⟩ := List.mem_map.1 hcs
    exact not_mem_toDigits (by decide) (by decide) rfl
  rw [ofChars?, hsplit]
  simp only [octets, List.map_cons, List.map_nil, octet?_decimal, Option.bind_eq_bind,
    Option.bind_some, ofOctets_octets]
  rfl

/-- Different addresses are written differently. -/
theorem text_injective : Function.Injective text := by
  have hread : Function.LeftInverse (fun s : String ↦ (ofChars? s.toList).getD default) text := by
    intro x
    show (ofChars? (String.ofList x.chars).toList).getD default = x
    rw [String.toList_ofList, ofChars?_chars, Option.getD_some]
  exact hread.injective

/-- The written form has dots and digits only. -/
theorem eq_dot_or_exists_of_mem_chars (hc : c ∈ x.chars) :
    c = '.' ∨ ∃ n, c ∈ Nat.toDigits 10 n := by
  obtain rfl | ⟨part, hpart, hc⟩ := eq_or_exists_of_mem_intercalate hc
  · exact .inl rfl
  · obtain ⟨o, -, rfl⟩ := List.mem_map.1 hpart
    exact .inr ⟨o.toNat, hc⟩

theorem isBlank_of_mem_chars (hc : c ∈ x.chars) : isBlank c = false := by
  obtain rfl | ⟨n, hc⟩ := eq_dot_or_exists_of_mem_chars hc
  · rfl
  · exact isBlank_of_mem_toDigits (by decide) (by decide) hc

theorem colon_not_mem_chars : ':' ∉ x.chars := by
  intro hc
  obtain h | ⟨n, hc⟩ := eq_dot_or_exists_of_mem_chars hc
  · cases h
  · exact not_mem_toDigits (by decide) (by decide) rfl hc

theorem dot_mem_chars : '.' ∈ x.chars :=
  separator_mem_intercalate (by simp [octets])

/-- What contains anything but dots and digits is no address. -/
theorem ofChars?_eq_none_of_mem (hc : c ∈ cs) (hdot : c ≠ '.') (hnone : hexDigit? c = none) :
    ofChars? cs = none := by
  -- one of the parts between dots contains the character, and is no octet
  have hmem : c ∈ ['.'].intercalate (cs.splitOn '.') := by
    rwa [List.intercalate_splitOn]
  obtain h | ⟨part, hpart, hc⟩ := eq_or_exists_of_mem_intercalate hmem
  · exact absurd h hdot
  · have hbad : octet? part = none := octet?_eq_none_of_mem hc hnone
    rw [ofChars?]
    split
    · rename_i a b d e hsplit
      rw [hsplit] at hpart
      simp only [List.mem_cons, List.not_mem_nil, or_false] at hpart
      rcases hpart with rfl | rfl | rfl | rfl
      · simp [hbad]
      · simp [hbad]
      · simp [hbad]
      · simp [hbad]
    · rfl

end

end NetReconcile.IPv4
