import NetReconcile.NameMap

/-!
# Maps from lists of entries

A map with ordered names can be built from its entries in any order.

## Main statements

* `NameMap.ofList_of_perm`: a map is built from its entries in any order.
-/

namespace NetReconcile.NameMap

variable {α : Type} {name : String} {value : α} {m : NameMap α} {l : List (String × α)}

/-- A name that is not there yet is added, somewhere among the others. -/
theorem perm_insertEntry (h : ∀ e ∈ l, e.1 ≠ name) :
    (insertEntry name value l).Perm ((name, value) :: l) := by
  fun_induction insertEntry name value l with
  | case1 => exact .refl _
  | case2 n v rest _ => exact .refl _
  | case3 v rest _ => exact absurd rfl (h (name, v) List.mem_cons_self)
  | case4 n v rest _ _ ih =>
    have hrest := ih fun e he ↦ h e (List.mem_cons_of_mem _ he)
    exact (hrest.cons (n, v)).trans (.swap (name, value) (n, v) rest)

/-- Inserting entries of different names keeps them all. -/
theorem entries_foldl_insert (hn : ((l ++ m.entries).map (·.1)).Nodup) :
    (l.foldl (fun m e ↦ m.insert e.1 e.2) m).entries.Perm (l ++ m.entries) := by
  induction l generalizing m with
  | nil => exact .refl _
  | cons e l ih =>
    have hfresh : ∀ e' ∈ m.entries, e'.1 ≠ e.1 := by
      intro e' he' heq
      refine (List.nodup_cons.1 hn).1 (List.mem_map.2 ⟨e', ?_, heq⟩)
      exact List.mem_append_right l he'
    have hinsert : (l ++ (m.insert e.1 e.2).entries).Perm (e :: l ++ m.entries) :=
      ((perm_insertEntry hfresh).append_left l).trans List.perm_middle
    exact (ih ((hinsert.map (·.1)).nodup_iff.2 hn)).trans hinsert

/-- A map is built from its entries in any order. -/
theorem ofList_of_perm (h : l.Perm m.entries) : ofList l = m := by
  have hn : (l.map (·.1)).Nodup :=
    (h.map (·.1)).nodup_iff.2 (List.pairwise_map.2 (m.sorted.imp String.ne_of_lt))
  have hperm : (ofList l).entries.Perm l := by
    have hentries := entries_foldl_insert (m := empty) (l := l)
    rw [show (empty : NameMap α).entries = [] from rfl, List.append_nil] at hentries
    exact hentries hn
  refine NameMap.ext (List.Perm.eq_of_pairwise (fun a b _ _ hab hba ↦ ?_) (ofList l).sorted m.sorted
    (hperm.trans h))
  exact absurd hba (String.lt_asymm hab)

end NetReconcile.NameMap
