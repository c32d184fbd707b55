import NetReconcile.Proofs.Binding.Correspondence
import NetReconcile.Proofs.Derivation.Roles

/-!
# Bindings that correspond

Deriving configurations asks every network for its kind and for the roles that it claims, and only
then for its literals. Bindings of the same networks that agree on kinds and roles are sorted alike,
and have the same holders of roles, whatever their literals say.

## Main definitions

* `KeepsRoles`: a relation of networks with the same kinds and claims.

## Main statements

* `forall₂_iff_of_forall₂`: related lists answer alike if their members do.
* `forall₂_mergeSort`: related lists that are compared alike are sorted alike.
* `roleHolder_eq_of_corresponds`, `soleNetwork?_eq_of_corresponds`: the same networks hold roles.
-/

namespace NetReconcile

/-! ### Related lists -/

/-- What members answer, related members answer something related to. -/
theorem forall₂_of_forall₂ {α β γ : Type} {P : α → β → Prop} {S : α → γ → Prop}
    {T : β → γ → Prop} {l : List α} {l' : List β} {r : List γ} (h : List.Forall₂ P l l')
    (hr : List.Forall₂ S l r) (hST : ∀ a b c, P a b → S a c → T b c) : List.Forall₂ T l' r := by
  induction h generalizing r with
  | nil =>
    cases hr
    exact .nil
  | cons hab _ ih =>
    rcases hr with _ | ⟨hac, hr⟩
    exact .cons (hST _ _ _ hab hac) (ih hr)

/-- Where related members answer alike, related lists do. -/
theorem forall₂_iff_of_forall₂ {α β γ : Type} {P : α → β → Prop} {S : α → γ → Prop}
    {T : β → γ → Prop} {l : List α} {l' : List β} (h : List.Forall₂ P l l')
    (hST : ∀ a b c, P a b → (T b c ↔ S a c)) (r : List γ) :
    List.Forall₂ T l' r ↔ List.Forall₂ S l r :=
  ⟨fun hr ↦ forall₂_of_forall₂ h.flip hr fun _ _ _ hba ↦ (hST _ _ _ hba).1,
    fun hr ↦ forall₂_of_forall₂ h hr fun _ _ _ hab ↦ (hST _ _ _ hab).2⟩

/-- Related lists whose members compare alike are sorted into related lists. -/
theorem forall₂_mergeSort {α β : Type} {P : α → β → Prop} {le : α → α → Bool} {le' : β → β → Bool}
    (hle : ∀ a a' b b', P a a' → P b b' → le' a' b' = le a b) {l : List α} {l' : List β}
    (h : List.Forall₂ P l l') : List.Forall₂ P (l.mergeSort le) (l'.mergeSort le') := by
  have hpairs : ∀ p ∈ l.zip l', P p.1 p.2 := fun _ hp ↦ List.forall₂_zip h hp
  -- the pairs are sorted by their first members, and so by their second
  have hfst : ((l.zip l').mergeSort fun p q ↦ le p.1 q.1).map Prod.fst = l.mergeSort le := by
    have hmap := List.map_fst_zip (Nat.le_of_eq h.length_eq)
    exact (List.map_mergeSort (f := Prod.fst) fun _ _ _ _ ↦ rfl).trans
      (congrArg (List.mergeSort · le) hmap)
  have hsnd : ((l.zip l').mergeSort fun p q ↦ le p.1 q.1).map Prod.snd = l'.mergeSort le' := by
    have hmap := List.map_snd_zip (Nat.le_of_eq h.length_eq.symm)
    exact (List.map_mergeSort (f := Prod.snd) fun p hp q hq ↦
      (hle _ _ _ _ (hpairs p hp) (hpairs q hq)).symm).trans (congrArg (List.mergeSort · le') hmap)
  rw [← hfst, ← hsnd, List.forall₂_map_left_iff, List.forall₂_map_right_iff, List.forall₂_same]
  exact fun p hp ↦ hpairs p (List.mem_mergeSort.1 hp)

/-! ### Roles -/

variable {R : NetworkSpec → NetworkSpec → Prop}

/-- Related networks are of one kind and claim the same roles. -/
structure KeepsRoles (R : NetworkSpec → NetworkSpec → Prop) : Prop where
  kind_eq : ∀ {spec spec'}, R spec spec' → spec'.kind = spec.kind
  default_eq : ∀ {spec spec'}, R spec spec' → spec'.default = spec.default

section

variable {b b' : Binding} {bindings bindings' : List Binding}

theorem Binding.Corresponds.isDynamic_eq (hR : KeepsRoles R) (h : b.Corresponds R b') :
    b'.spec.isDynamic = b.spec.isDynamic := by
  rw [NetworkSpec.isDynamic, hR.kind_eq h.spec, NetworkSpec.isDynamic]

/-- Bindings that correspond claim the same roles. -/
theorem Binding.Corresponds.claims_eq (hR : KeepsRoles R) (h : b.Corresponds R b')
    (role : DefaultRole) : b'.spec.claims role = b.spec.claims role := by
  rw [NetworkSpec.claims, hR.default_eq h.spec, NetworkSpec.claims]

/-- The same network holds a role, or the same networks are in conflict about it. -/
theorem roleHolder_eq_of_corresponds (hR : KeepsRoles R)
    (h : List.Forall₂ (Binding.Corresponds R) bindings bindings') (role : DefaultRole) :
    roleHolder role bindings' = roleHolder role bindings := by
  have hclaimants : List.Forall₂ (Binding.Corresponds R) (bindings.filter (·.spec.claims role))
      (bindings'.filter (·.spec.claims role)) :=
    List.rel_filter (fun _ _ hb ↦ Bool.eq_iff_iff.1 (hb.claims_eq hR role).symm) h
  unfold roleHolder
  revert hclaimants
  generalize bindings.filter (·.spec.claims role) = claimants
  generalize bindings'.filter (·.spec.claims role) = claimants'
  intro hclaimants
  rcases hclaimants with _ | ⟨hfirst, _ | ⟨hsecond, _⟩⟩
  · rfl
  · exact congrArg (Except.ok ∘ some) hfirst.network_eq
  · dsimp only
    rw [hfirst.network_eq, hsecond.network_eq]

theorem soleNetwork?_eq_of_corresponds (hR : KeepsRoles R)
    (h : List.Forall₂ (Binding.Corresponds R) bindings bindings') :
    soleNetwork? bindings' = soleNetwork? bindings := by
  rcases h with _ | ⟨hfirst, _ | ⟨_, _⟩⟩
  · rfl
  · rw [soleNetwork?, soleNetwork?, hfirst.isDynamic_eq hR, hR.default_eq hfirst.spec,
      hfirst.network_eq]
  · rfl

/-- The order of configurations is that of the bindings that correspond. -/
theorem forall₂_mergeSort_before (hR : KeepsRoles R)
    (h : List.Forall₂ (Binding.Corresponds R) bindings bindings') :
    List.Forall₂ (Binding.Corresponds R) (bindings.mergeSort Binding.before)
      (bindings'.mergeSort Binding.before) := by
  refine forall₂_mergeSort (fun a a' b b' ha hb ↦ ?_) h
  rw [Binding.before, Binding.before, ha.isDynamic_eq hR, hb.isDynamic_eq hR, ha.network_eq,
    hb.network_eq]

/-- Under a name stands the same network, if any. -/
theorem rel_find?_network (h : List.Forall₂ (Binding.Corresponds R) bindings bindings')
    (name : String) :
    Option.Rel (Binding.Corresponds R) (bindings.find? (·.network = name))
      (bindings'.find? (·.network = name)) := by
  induction h with
  | nil => exact .none
  | cons hb _ ih =>
    rw [List.find?_cons, List.find?_cons, hb.network_eq]
    split
    · exact .some hb
    · exact ih

end

end NetReconcile
