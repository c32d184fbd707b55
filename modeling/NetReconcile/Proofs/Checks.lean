import Mathlib.Data.List.Forall2

/-!
# Sequences of checks

A check answers or gives an error, and a sequence of checks answers if all of them do. These lemmas
take an answer apart into those of the single checks.

## Main statements

* `bind_eq_ok_iff`, `map_eq_ok_iff`: what a check answers that goes on from another one.
* `mapM_eq_ok_iff`: checks of all members of a list.
-/

namespace NetReconcile

variable {ε α β : Type}

/-- A sequence answers if the first check does and what goes on from its answer does. -/
theorem bind_eq_ok_iff {op : Except ε α} {next : α → Except ε β} {b : β} :
    (op >>= next) = .ok b ↔ ∃ a, op = .ok a ∧ next a = .ok b := by
  cases op with
  | error e => simp [bind, Except.bind]
  | ok a => simp [bind, Except.bind]

/-- An answer that is changed is the change of an answer. -/
theorem map_eq_ok_iff {op : Except ε α} {f : α → β} {b : β} :
    op.map f = .ok b ↔ ∃ a, op = .ok a ∧ f a = b := by
  cases op with
  | error e => simp [Except.map]
  | ok a => simp [Except.map]

/-- Checks of all members of a list answer with a list of answers, member by member. -/
theorem mapM_eq_ok_iff {check : α → Except ε β} {l : List α} {r : List β} :
    l.mapM check = .ok r ↔ List.Forall₂ (fun a b ↦ check a = .ok b) l r := by
  induction l generalizing r with
  | nil => cases r <;> simp [pure, Except.pure]
  | cons a l ih =>
    rw [List.mapM_cons, bind_eq_ok_iff]
    simp only [bind_eq_ok_iff, ih]
    constructor
    · rintro ⟨b, hb, bs, hbs, hr⟩
      obtain rfl : b :: bs = r := Except.ok.inj hr
      exact .cons hb hbs
    · intro h
      cases h with
      | cons hb hbs => exact ⟨_, hb, _, hbs, rfl⟩

/-- There is a related list exactly if every member has something that it is related to. -/
theorem exists_forall₂_iff {R : α → β → Prop} {l : List α} :
    (∃ r, List.Forall₂ R l r) ↔ ∀ a ∈ l, ∃ b, R a b := by
  induction l with
  | nil => exact ⟨fun _ _ h ↦ absurd h List.not_mem_nil, fun _ ↦ ⟨[], .nil⟩⟩
  | cons a l ih =>
    rw [List.forall_mem_cons, ← ih]
    constructor
    · rintro ⟨_, _ | ⟨hb, hbs⟩⟩
      exact ⟨⟨_, hb⟩, ⟨_, hbs⟩⟩
    · rintro ⟨⟨b, hb⟩, ⟨bs, hbs⟩⟩
      exact ⟨b :: bs, .cons hb hbs⟩

/-- What stands in the list of answers answers some member of the list. -/
theorem exists_mem_of_forall₂ {R : α → β → Prop} {l : List α} {r : List β} {b : β}
    (h : List.Forall₂ R l r) (hb : b ∈ r) : ∃ a ∈ l, R a b := by
  induction h with
  | nil => cases hb
  | cons hab _ ih =>
    rcases List.mem_cons.1 hb with rfl | hb
    · exact ⟨_, List.mem_cons_self, hab⟩
    · obtain ⟨a, ha, hab⟩ := ih hb
      exact ⟨a, List.mem_cons_of_mem _ ha, hab⟩

end NetReconcile
