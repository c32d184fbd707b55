import Mathlib.Data.List.Permutation
import NetReconcile.Proofs.Derivation.Specification
import NetReconcile.Proofs.Keyed

/-!
# The order of bindings has no part in a derivation

Bindings come in the order in which networks were bound, and the derivation looks at them in that
order when it searches for the holder of a role. Where no two bindings are for one network nothing
of that order is left in the result: the configurations are sorted, the holder is found by name, and
a conflict names its two networks in the order of their names. Only where a role is claimed three
times does the order decide which two of the claimants are named.

## Main definitions

* `NamesClaimants`: an error names two networks that claim one role.
* `DerivesAlike`: what is derived from two lists of bindings differs in nothing but the claimants
  that are named of a role with three or more of them.

## Main statements

* `roleHolder_perm`: the holder of a role, and the conflict of two claimants.
* `derivesAlike_of_perm`: bindings in another order derive alike.
-/

namespace NetReconcile

/-! ### Specification -/

/-- The error says that two networks claim a role, and names them in the order of their names. -/
def NamesClaimants (bindings : List Binding) (role : DefaultRole) (e : DerivationError) : Prop :=
  ∃ a ∈ bindings, ∃ b ∈ bindings, a.spec.claims role = true ∧ b.spec.claims role = true ∧
    a.network < b.network ∧ e = .conflictingDefault role a.network b.network

/-- The same is derived from two lists of bindings, but for the claimants that are named of a role
that three or more bindings claim. -/
structure DerivesAlike (bindings bindings' : List Binding) : Prop where
  /-- One derivation succeeds if the other does, and with the same configurations. -/
  ok_iff : ∀ r, deriveConfigs bindings' = .ok r ↔ deriveConfigs bindings = .ok r
  /-- Where no role has three claimants, errors are the same as well. -/
  eq_of_claims : (∀ role, bindings.countP (·.spec.claims role) ≤ 2) →
    deriveConfigs bindings' = deriveConfigs bindings
  /-- Errors that differ are about one role, and each names two of its claimants. -/
  error : ∀ e e', deriveConfigs bindings = .error e → deriveConfigs bindings' = .error e' →
    e' = e ∨ ∃ role, 3 ≤ bindings.countP (·.spec.claims role) ∧
      NamesClaimants bindings role e ∧ NamesClaimants bindings role e'

/-! ### Roles -/

/-- A conflict is the same for both orders of its networks. -/
theorem DerivationError.conflict_comm (role : DefaultRole) (a b : String) :
    DerivationError.conflict role a b = DerivationError.conflict role b a := by
  unfold DerivationError.conflict
  split
  · rename_i hab
    split
    · rename_i hba
      rw [String.le_antisymm hab hba]
    · rfl
  · rename_i hab
    rw [if_pos ((String.le_total a b).resolve_left hab)]

section

variable {bindings bindings' : List Binding} {role : DefaultRole}

/-- A role that is claimed at most twice has the same holder, or the same conflict, whatever the
order of the bindings. -/
theorem roleHolder_perm (hperm : bindings.Perm bindings')
    (hclaims : bindings.countP (·.spec.claims role) ≤ 2) :
    roleHolder role bindings' = roleHolder role bindings := by
  have hfilter := hperm.symm.filter (·.spec.claims role)
  rw [List.countP_eq_length_filter] at hclaims
  unfold roleHolder
  match hclaimants : bindings.filter (·.spec.claims role) with
  | [] =>
    rw [hclaimants, List.perm_nil] at hfilter
    rw [hfilter, hclaimants]
  | [a] =>
    rw [hclaimants, List.perm_singleton] at hfilter
    rw [hfilter, hclaimants]
  | [a, b] =>
    rw [hclaimants, List.perm_pair] at hfilter
    rcases hfilter with hsame | hswapped
    · rw [hsame, hclaimants]
    · rw [hswapped, hclaimants]
      exact congrArg Except.error (DerivationError.conflict_comm role b.network a.network)
  | _ :: _ :: _ :: _ => simp [hclaimants] at hclaims

/-- A role that is claimed twice or more is a conflict of two claimants. -/
theorem exists_roleHolder_eq_error (hn : (bindings.map (·.network)).Nodup)
    (hclaims : 2 ≤ bindings.countP (·.spec.claims role)) :
    ∃ e, roleHolder role bindings = .error e ∧ NamesClaimants bindings role e := by
  rw [List.countP_eq_length_filter] at hclaims
  match hclaimants : bindings.filter (·.spec.claims role) with
  | [] => simp [hclaimants] at hclaims
  | [_] => simp [hclaimants] at hclaims
  | a :: b :: rest =>
    refine ⟨.conflict role a.network b.network, by rw [roleHolder, hclaimants], ?_⟩
    have hmem : ∀ c ∈ a :: b :: rest, c ∈ bindings ∧ c.spec.claims role = true := by
      intro c hc
      rwa [← hclaimants, List.mem_filter] at hc
    obtain ⟨ha, hrole⟩ := hmem a List.mem_cons_self
    obtain ⟨hb, hrole'⟩ := hmem b (List.mem_cons_of_mem _ List.mem_cons_self)
    -- the claimants are different bindings, so their networks have different names
    have hsub : (a :: b :: rest).Sublist bindings := hclaimants ▸ List.filter_sublist
    have hne : a.network ≠ b.network := by
      have hnodup := hn.sublist (hsub.map (·.network))
      simp only [List.map_cons, List.nodup_cons, List.mem_cons, not_or] at hnodup
      exact hnodup.1.1
    unfold DerivationError.conflict
    split
    · rename_i hle
      exact ⟨a, ha, b, hb, hrole, hrole', Std.lt_of_le_of_ne hle hne, rfl⟩
    · rename_i hle
      exact ⟨b, hb, a, ha, hrole', hrole, String.not_le.1 hle, rfl⟩

/-! ### What comes after the roles -/

/-- A lone binding is alone in any order. -/
theorem soleNetwork?_perm (hperm : bindings.Perm bindings') :
    soleNetwork? bindings' = soleNetwork? bindings := by
  have hsingle : ∀ a, bindings' = [a] ↔ bindings = [a] := by
    intro a
    rw [← List.perm_singleton, ← List.perm_singleton]
    exact ⟨hperm.trans, hperm.symm.trans⟩
  ext name
  rw [soleNetwork?_eq_some_iff, soleNetwork?_eq_some_iff]
  simp only [hsingle]

/-- The claimant of the dns role is looked for by its name, so the order is not seen. -/
theorem hostNameservers_perm (hperm : bindings.Perm bindings')
    (hn : (bindings.map (·.network)).Nodup) (holder : Option String) :
    hostNameservers bindings' holder = hostNameservers bindings holder := by
  have hfind : (fun name ↦ bindings'.find? (·.network = name)) =
      fun name ↦ bindings.find? (·.network = name) :=
    funext fun name ↦ (find?_key_perm hperm hn name).symm
  rw [hostNameservers, hostNameservers, hfind]

/-- Bindings that come before each other are of one network. This is why sorting leaves no choice.
-/
theorem Binding.network_eq_of_before {a b : Binding} (hab : a.before b = true)
    (hba : b.before a = true) : a.network = b.network := by
  rw [before_iff] at hab hba
  have hle : a.network ≤ b.network ∧ b.network ≤ a.network := by
    cases ha : a.spec.isDynamic <;> cases hb : b.spec.isDynamic <;> simp_all
  exact String.le_antisymm hle.1 hle.2

/-- Bindings for different networks are sorted in one way only. -/
theorem mergeSort_before_perm (hperm : bindings.Perm bindings')
    (hn : (bindings.map (·.network)).Nodup) :
    bindings'.mergeSort Binding.before = bindings.mergeSort Binding.before := by
  have hsorted := fun l ↦ List.pairwise_mergeSort Binding.before_trans Binding.before_total l
  refine List.Perm.eq_of_pairwise (fun a b ha hb hab hba ↦ ?_) (hsorted bindings')
    (hsorted bindings)
    ((List.mergeSort_perm _ _).trans (hperm.symm.trans (List.mergeSort_perm _ _).symm))
  have hnetwork := Binding.network_eq_of_before hab hba
  exact eq_of_network_eq hn (hperm.mem_iff.2 (List.mem_mergeSort.1 ha)) (List.mem_mergeSort.1 hb)
    hnetwork

/-! ### All steps -/

/-- A conflict about the dns role is found before anything is read. -/
theorem deriveConfigs_of_dns_conflict {e : DerivationError}
    (hdns : roleHolder .dns bindings = .error e) : deriveConfigs bindings = .error e := by
  rw [deriveConfigs, hdns]
  rfl

/-- The dns role is looked at first. -/
theorem deriveConfigs_of_gateway_conflict {holder : Option String} {e : DerivationError}
    (hdns : roleHolder .dns bindings = .ok holder)
    (hgateway : roleHolder .gateway bindings = .error e) : deriveConfigs bindings = .error e := by
  rw [deriveConfigs, hdns, hgateway]
  rfl

/-- The order of bindings has a part in the search for the holders of roles only. -/
theorem deriveConfigs_perm (hperm : bindings.Perm bindings')
    (hn : (bindings.map (·.network)).Nodup)
    (hholder : ∀ role, roleHolder role bindings' = roleHolder role bindings) :
    deriveConfigs bindings' = deriveConfigs bindings := by
  have hservers : hostNameservers bindings' = hostNameservers bindings :=
    funext fun holder ↦ hostNameservers_perm hperm hn holder
  rw [deriveConfigs, deriveConfigs, hholder, hholder, soleNetwork?_perm hperm, hservers,
    mergeSort_before_perm hperm hn]

/-- Claimants are claimants in any order. -/
theorem NamesClaimants.perm {e : DerivationError} (h : NamesClaimants bindings role e)
    (hperm : bindings.Perm bindings') : NamesClaimants bindings' role e := by
  obtain ⟨a, ha, b, hb, hclaims⟩ := h
  exact ⟨a, hperm.mem_iff.1 ha, b, hperm.mem_iff.1 hb, hclaims⟩

/-- A role with three or more claimants is in conflict in any order, though perhaps of others of
them. -/
theorem exists_roleHolder_eq_error_of_perm (hperm : bindings.Perm bindings')
    (hn : (bindings.map (·.network)).Nodup)
    (hclaims : 3 ≤ bindings.countP (·.spec.claims role)) :
    ∃ e e', roleHolder role bindings = .error e ∧ roleHolder role bindings' = .error e' ∧
      NamesClaimants bindings role e ∧ NamesClaimants bindings role e' := by
  have hn' : (bindings'.map (·.network)).Nodup := (hperm.map (·.network)).nodup_iff.1 hn
  have htwo : 2 ≤ bindings.countP (·.spec.claims role) := Nat.le_of_succ_le hclaims
  have htwo' : 2 ≤ bindings'.countP (·.spec.claims role) := hperm.countP_eq _ ▸ htwo
  obtain ⟨e, he, hnames⟩ := exists_roleHolder_eq_error hn htwo
  obtain ⟨e', he', hnames'⟩ := exists_roleHolder_eq_error hn' htwo'
  exact ⟨e, e', he, he', hnames, hnames'.perm hperm.symm⟩

/-- What is derived from bindings in another order is the same, unless a role that is claimed three
times is in conflict both times. -/
theorem deriveConfigs_perm_or (hperm : bindings.Perm bindings')
    (hn : (bindings.map (·.network)).Nodup) :
    deriveConfigs bindings' = deriveConfigs bindings ∨
      ∃ role e e', 3 ≤ bindings.countP (·.spec.claims role) ∧
        deriveConfigs bindings = .error e ∧ deriveConfigs bindings' = .error e' ∧
        NamesClaimants bindings role e ∧ NamesClaimants bindings role e' := by
  rcases Nat.lt_or_ge 2 (bindings.countP (·.spec.claims .dns)) with hmany | hfew
  · obtain ⟨e, e', he, he', hnames⟩ := exists_roleHolder_eq_error_of_perm hperm hn hmany
    exact .inr ⟨.dns, e, e', hmany, deriveConfigs_of_dns_conflict he,
      deriveConfigs_of_dns_conflict he', hnames⟩
  · have hsame := roleHolder_perm hperm hfew
    cases hdns : roleHolder .dns bindings with
    | error e =>
      rw [hdns] at hsame
      exact .inl (by rw [deriveConfigs_of_dns_conflict hdns, deriveConfigs_of_dns_conflict hsame])
    | ok holder =>
      rcases Nat.lt_or_ge 2 (bindings.countP (·.spec.claims .gateway)) with hmany | hfew'
      · obtain ⟨e, e', he, he', hnames⟩ := exists_roleHolder_eq_error_of_perm hperm hn hmany
        exact .inr ⟨.gateway, e, e', hmany, deriveConfigs_of_gateway_conflict hdns he,
          deriveConfigs_of_gateway_conflict (hsame.trans hdns) he', hnames⟩
      · refine .inl (deriveConfigs_perm hperm hn fun role ↦ ?_)
        cases role with
        | gateway => exact roleHolder_perm hperm hfew'
        | dns => exact hsame

/-- Bindings in another order derive alike. -/
theorem derivesAlike_of_perm (hperm : bindings.Perm bindings')
    (hn : (bindings.map (·.network)).Nodup) : DerivesAlike bindings bindings' := by
  rcases deriveConfigs_perm_or hperm hn with heq | ⟨role, e, e', hmany, he, he', hnames, hnames'⟩
  · exact {
      ok_iff := fun r ↦ by rw [heq]
      eq_of_claims := fun _ ↦ heq
      error := fun f f' hf hf' ↦ .inl (Except.error.inj (hf'.symm.trans (heq.trans hf))) }
  · exact {
      ok_iff := fun r ↦ by rw [he, he']; exact ⟨nofun, nofun⟩
      eq_of_claims := fun hfew ↦ absurd (hfew role) (Nat.not_le.2 hmany)
      error := fun f f' hf hf' ↦ by
        obtain rfl := Except.error.inj (he.symm.trans hf)
        obtain rfl := Except.error.inj (he'.symm.trans hf')
        exact .inr ⟨role, hmany, hnames, hnames'⟩ }

end

/-- Three networks that claim the gateway, one of which cannot be configured either. -/
def threeClaimants : List Binding := [
  ⟨"lan", { ip := some "10.0.0.5", netmask := some "255.255.255.0", default := [.gateway] },
    "eth0"⟩,
  ⟨"wan", { kind := .dynamic, default := [.gateway, .dns] }, "eth1"⟩,
  ⟨"dmz", { default := [.gateway, .gateway] }, "eth2"⟩]

/-- The claimants that are named of them are others when the list is reversed. -/
theorem derivesAlike_threeClaimants :
    threeClaimants.Perm threeClaimants.reverse ∧ (threeClaimants.map (·.network)).Nodup ∧
      deriveConfigs threeClaimants = .error (.conflictingDefault .gateway "lan" "wan") ∧
      deriveConfigs threeClaimants.reverse = .error (.conflictingDefault .gateway "dmz" "wan") ∧
      DerivesAlike threeClaimants threeClaimants.reverse := by
  have hperm : threeClaimants.Perm threeClaimants.reverse := (List.reverse_perm _).symm
  have hn : (threeClaimants.map (·.network)).Nodup := by decide
  exact ⟨hperm, hn, rfl, rfl, derivesAlike_of_perm hperm hn⟩

end NetReconcile
