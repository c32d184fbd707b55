import Mathlib.Data.List.Nodup

/-!
# Lists whose members have different keys

A list whose members have different keys is a finite map. What is found under a key is the member
that has it, wherever in the list that member stands.

## Main statements

* `find?_key_eq_some_iff`: what is found under a key.
* `find?_key_perm`: it does not depend on the order of the list.
-/

namespace NetReconcile

variable {α κ : Type} [DecidableEq κ] {key : α → κ} {l l' : List α} {k : κ}

/-- What is found under a key is the member that has it. -/
theorem find?_key_eq_some_iff (hn : (l.map key).Nodup) {a : α} :
    l.find? (key · = k) = some a ↔ a ∈ l ∧ key a = k := by
  constructor
  · intro hfind
    exact ⟨List.mem_of_find?_eq_some hfind, by simpa using List.find?_some hfind⟩
  · rintro ⟨ha, rfl⟩
    cases hfind : l.find? (key · = key a) with
    | none =>
      have hnone := List.find?_eq_none.1 hfind a ha
      simp at hnone
    | some b =>
      have hb : key b = key a := by simpa using List.find?_some hfind
      rw [List.inj_on_of_nodup_map hn (List.mem_of_find?_eq_some hfind) ha hb]

/-- What is found under a key does not depend on the order of a list. -/
theorem find?_key_perm (hperm : l.Perm l') (hn : (l.map key).Nodup) (k : κ) :
    l.find? (key · = k) = l'.find? (key · = k) := by
  have hn' : (l'.map key).Nodup := (hperm.map key).nodup_iff.1 hn
  ext a
  rw [find?_key_eq_some_iff hn, find?_key_eq_some_iff hn', hperm.mem_iff]

end NetReconcile
