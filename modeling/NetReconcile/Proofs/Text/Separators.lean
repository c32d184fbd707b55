import NetReconcile.ConfigFile
import NetReconcile.Text.Blank

/-!
# Taking texts apart at separators

Addresses are parts with dots or colons between them, a resolver file is lines with their ends, and
a line is words with blanks between them. Each is taken apart again into what it was put together
from, as long as no part contains the separator.

## Main statements

* `eq_or_exists_of_mem_intercalate`: the characters of parts with a separator between them.
* `splitOn_linesText`: the lines of a text.
* `fields_append_blank`: the fields of two words with a blank between them.
-/

namespace NetReconcile.Text

section

variable {separator c : Char} {parts : List (List Char)}

/-- Nothing but separators comes between the parts. -/
theorem eq_or_exists_of_mem_intercalate (hc : c ∈ [separator].intercalate parts) :
    c = separator ∨ ∃ part ∈ parts, c ∈ part := by
  induction parts with
  | nil => cases hc
  | cons part parts ih =>
    cases parts with
    | nil =>
      rw [List.intercalate_singleton] at hc
      exact .inr ⟨part, List.mem_cons_self, hc⟩
    | cons next parts =>
      rw [List.intercalate_cons_cons, List.mem_append, List.mem_append, List.mem_singleton] at hc
      rcases hc with (hc | hc) | hc
      · exact .inr ⟨part, List.mem_cons_self, hc⟩
      · exact .inl hc
      · obtain hc | ⟨later, hlater, hc⟩ := ih hc
        · exact .inl hc
        · exact .inr ⟨later, List.mem_cons_of_mem _ hlater, hc⟩

/-- Two parts or more have the separator between them. -/
theorem separator_mem_intercalate (h : 2 ≤ parts.length) :
    separator ∈ [separator].intercalate parts := by
  match parts with
  | [] => simp at h
  | [_] => simp at h
  | first :: next :: parts =>
    rw [List.intercalate_cons_cons]
    exact List.mem_append_left _ (List.mem_append_right _ List.mem_cons_self)

/-! ### Lines -/

/-- Text that ends in a line end has an empty last line. -/
theorem splitOn_linesText {lines : List String} (h : ∀ line ∈ lines, '\n' ∉ line.toList) :
    (linesText lines).toList.splitOn '\n' = lines.map String.toList ++ [[]] := by
  induction lines with
  | nil => rfl
  | cons line lines ih =>
    have htext : (linesText (line :: lines)).toList =
        line.toList ++ '\n' :: (linesText lines).toList := by
      simp [linesText]
    have hline : ∀ c ∈ line.toList, (c == '\n') = false := by
      intro c hc
      rw [beq_eq_false_iff_ne]
      rintro rfl
      exact h line List.mem_cons_self hc
    have hrest := ih fun l hl ↦ h l (List.mem_cons_of_mem _ hl)
    rw [htext, List.splitOn, List.splitOnP_append_cons_of_forall_mem hline '\n' rfl,
      List.map_cons, List.cons_append]
    exact congrArg _ hrest

/-! ### Fields -/

/-- Two words with a blank between them are two fields. -/
theorem fields_append_blank {word rest : List Char} {blank : Char}
    (hword : ∀ c ∈ word, isBlank c = false) (hne : word ≠ []) (hblank : isBlank blank = true)
    (hrest : ∀ c ∈ rest, isBlank c = false) (hne' : rest ≠ []) :
    fields (word ++ blank :: rest) = [word, rest] := by
  rw [fields, List.splitOnP_append_cons_of_forall_mem hword blank hblank,
    List.splitOnP_eq_singleton hrest]
  simp [hne, hne']

end

end NetReconcile.Text
