import NetReconcile.Text.Blank

/-!
# Spellings of a text

A literal may be written with blanks at its ends, and a hardware address in letters of either case.
Trimming undoes the first, lowering the second, and neither gets into the way of the other: no
letter is a blank, in either case.

## Main definitions

* `Padded`: a text with blanks added at its ends.

## Main statements

* `trim_eq_of_padded`: blanks at the ends have no part in a trimmed text.
* `trim_lowerAscii`: it is the same to trim first and to lower first.
-/

namespace NetReconcile.Text

/-- `padded` is `text` with blanks added at its ends. -/
def Padded (text padded : String) : Prop :=
  ∃ before after : List Char, (∀ c ∈ before, isBlank c = true) ∧ (∀ c ∈ after, isBlank c = true) ∧
    padded.toList = before ++ text.toList ++ after

section

variable {before after cs : List Char}

theorem dropWhile_eq_nil_of_isBlank (h : ∀ c ∈ cs, isBlank c = true) :
    cs.dropWhile isBlank = [] := by
  have hall : (cs ++ []).dropWhile isBlank = [] := List.dropWhile_append_of_pos h
  rwa [List.append_nil] at hall

/-- Blanks at the end are trimmed, however many there are. -/
theorem trimEnd_append (cs : List Char) (h : ∀ c ∈ after, isBlank c = true) :
    trimEnd (cs ++ after) = trimEnd cs := by
  have hreverse : ∀ c ∈ after.reverse, isBlank c = true := fun c hc ↦ h c (List.mem_reverse.1 hc)
  rw [trimEnd, List.reverse_append, List.dropWhile_append_of_pos hreverse, trimEnd]

/-- Blanks at both ends are trimmed. -/
theorem trimChars_append (cs : List Char) (hbefore : ∀ c ∈ before, isBlank c = true)
    (hafter : ∀ c ∈ after, isBlank c = true) :
    trimChars (before ++ cs ++ after) = trimChars cs := by
  rw [trimChars, List.append_assoc, List.dropWhile_append_of_pos hbefore, List.dropWhile_append]
  split
  · rename_i hempty
    rw [dropWhile_eq_nil_of_isBlank hafter, trimChars, List.isEmpty_iff.1 hempty]
  · rw [trimEnd_append _ hafter, trimChars]

end

/-- Blanks at the ends have no part in a trimmed text. -/
theorem trim_eq_of_padded {text padded : String} (h : Padded text padded) :
    trim padded = trim text := by
  obtain ⟨before, after, hbefore, hafter, heq⟩ := h
  rw [trim, heq, trimChars_append _ hbefore hafter, trim]

/-! ### Letters -/

/-- No letter is a blank, in either case. -/
theorem isBlank_toLower (c : Char) : isBlank c.toLower = isBlank c := by
  by_cases h : 'A'.toNat ≤ c.toNat ∧ c.toNat ≤ 'Z'.toNat
  · have hletters : ∀ n : Fin 26,
        isBlank (Char.ofNat ('A'.toNat + n)).toLower = isBlank (Char.ofNat ('A'.toNat + n)) := by
      decide
    have hlt : c.toNat - 'A'.toNat < 26 := Nat.sub_lt_left_of_lt_add h.1 (Nat.lt_succ_of_le h.2)
    have hc := hletters ⟨c.toNat - 'A'.toNat, hlt⟩
    rwa [Nat.add_sub_cancel' h.1, Char.ofNat_toNat] at hc
  · have hsame : c.toLower = c := by
      refine dif_neg fun hupper ↦ h ?_
      exact ⟨UInt32.le_iff_toNat_le.1 hupper.1, UInt32.le_iff_toNat_le.1 hupper.2⟩
    rw [hsame]

theorem trimEnd_map_toLower (cs : List Char) :
    trimEnd (cs.map Char.toLower) = (trimEnd cs).map Char.toLower := by
  have hblank : isBlank ∘ Char.toLower = isBlank := funext isBlank_toLower
  rw [trimEnd, ← List.map_reverse, List.dropWhile_map, hblank, ← List.map_reverse, trimEnd]

/-- No letter is trimmed for being in lower case. -/
theorem trimChars_map_toLower (cs : List Char) :
    trimChars (cs.map Char.toLower) = (trimChars cs).map Char.toLower := by
  have hblank : isBlank ∘ Char.toLower = isBlank := funext isBlank_toLower
  rw [trimChars, List.dropWhile_map, hblank, trimEnd_map_toLower, trimChars]

/-- It is the same to trim first and to lower first. -/
theorem trim_lowerAscii (text : String) : trim (lowerAscii text) = lowerAscii (trim text) := by
  rw [trim, lowerAscii, String.toList_ofList, trimChars_map_toLower, lowerAscii, trim,
    String.toList_ofList]

/-- Lowering neither adds nor drops a letter. -/
theorem lowerAscii_eq_empty_iff {text : String} : lowerAscii text = "" ↔ text = "" := by
  rw [lowerAscii, ← String.toList_inj, String.toList_ofList, ← String.toList_inj]
  simp

end NetReconcile.Text
