import Mathlib.Data.List.Sort
import Mathlib.Data.String.Basic

/-!
# Sorted names

Names are sorted in one way only, and the first of them that fits is the smallest that does.

## Main statements

* `mergeSort_names_perm`: lists of the same names are sorted alike.
* `find?_eq_some_iff_of_pairwise_le`: what is found in a sorted list of names.
-/

namespace NetReconcile

theorem pairwise_mergeSort_names (names : List String) : names.mergeSort.Pairwise (· ≤ ·) := by
  have hsorted : names.mergeSort.Pairwise fun a b ↦ decide (a ≤ b) = true :=
    List.pairwise_mergeSort (by simpa using fun a b c ↦ String.le_trans)
      (by simpa using String.le_total) names
  exact hsorted.imp of_decide_eq_true

/-- Names are sorted in one way only. -/
theorem mergeSort_names_perm {names names' : List String} (hperm : names.Perm names') :
    names.mergeSort = names'.mergeSort :=
  List.Perm.eq_of_pairwise (fun _ _ _ _ hab hba ↦ String.le_antisymm hab hba)
    (pairwise_mergeSort_names names) (pairwise_mergeSort_names names')
    ((List.mergeSort_perm _ _).trans (hperm.trans (List.mergeSort_perm _ _).symm))

section

variable {names : List String} {fits : String → Bool} {name : String}

/-- No name that fits comes before the one that is found. -/
theorem le_of_find?_eq_some (hsorted : names.Pairwise (· ≤ ·))
    (hfind : names.find? fits = some name) {other : String} (hother : other ∈ names)
    (hfits : fits other = true) : name ≤ other := by
  obtain ⟨-, before, after, rfl, hbefore⟩ := List.find?_eq_some_iff_append.1 hfind
  obtain ⟨-, hafter, -⟩ := List.pairwise_append.1 hsorted
  rcases List.mem_append.1 hother with hother | hother
  · have hnot := hbefore other hother
    simp [hfits] at hnot
  · rcases List.mem_cons.1 hother with rfl | hother
    · exact String.le_refl _
    · exact (List.pairwise_cons.1 hafter).1 other hother

/-- The first name of a sorted list that fits is the smallest one that does. -/
theorem find?_eq_some_iff_of_pairwise_le (hsorted : names.Pairwise (· ≤ ·)) :
    names.find? fits = some name ↔
      (name ∈ names ∧ fits name = true) ∧ ∀ other ∈ names, fits other = true → name ≤ other := by
  constructor
  · intro hfind
    exact ⟨⟨List.mem_of_find?_eq_some hfind, List.find?_some hfind⟩,
      fun other hother hfits ↦ le_of_find?_eq_some hsorted hfind hother hfits⟩
  · rintro ⟨⟨hmem, hfits⟩, hleast⟩
    cases hfind : names.find? fits with
    | none => exact absurd hfits (List.find?_eq_none.1 hfind name hmem)
    | some other =>
      have hle := le_of_find?_eq_some hsorted hfind hmem hfits
      have hge := hleast other (List.mem_of_find?_eq_some hfind) (List.find?_some hfind)
      rw [String.le_antisymm hle hge]

end

end NetReconcile
