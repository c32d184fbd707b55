import NetReconcile.Proofs.Derivation.Literals
import NetReconcile.Proofs.Keyed

/-!
# Who holds the default roles

Roles are claimed by bindings and held by networks, so the derivation goes from a binding to a name
and back from the name to a binding. Where no two bindings are for one network, nothing is lost on
the way: a role is held by the one binding that claims it, and the nameservers of the host are those
of the binding that claims the dns role.

## Main statements

* `roleHolder_eq_ok_iff`: a role has a holder or none exactly if it is not claimed twice.
* `holder_eq_some_iff`: who holds the gateway, a lone network that claims nothing included.
* `hostNameservers_eq_ok_iff`: what the nameservers of the host are.
* `deriveConfigs_eq_ok_iff`: the steps of a derivation that succeeds.
-/

namespace NetReconcile

variable {bindings : List Binding} {b : Binding} {role : DefaultRole}

/-! ### Bindings and the names of their networks -/

/-- A network has one binding. -/
theorem eq_of_network_eq (hn : (bindings.map (·.network)).Nodup) {a : Binding} (ha : a ∈ bindings)
    (hb : b ∈ bindings) (h : a.network = b.network) : a = b :=
  List.inj_on_of_nodup_map hn ha hb h

/-- A binding is found by the name of its network. -/
theorem find?_network_eq (hn : (bindings.map (·.network)).Nodup) (hb : b ∈ bindings) :
    bindings.find? (·.network = b.network) = some b :=
  (find?_key_eq_some_iff hn).2 ⟨hb, rfl⟩

/-! ### Holders -/

/-- A role is held by nobody if it is not claimed, and else by the one binding that claims it. -/
theorem roleHolder_eq_ok_iff {holder : Option String} :
    roleHolder role bindings = .ok holder ↔ ∃ claimant : Option Binding,
      bindings.filter (·.spec.claims role) = claimant.toList ∧
        holder = claimant.map (·.network) := by
  unfold roleHolder
  constructor
  · intro h
    split at h
    · rename_i hnil
      exact ⟨none, hnil, (Except.ok.inj h).symm⟩
    · rename_i a hone
      exact ⟨some a, hone, (Except.ok.inj h).symm⟩
    · cases h
  · rintro ⟨_ | a, hclaims, rfl⟩
    · rw [hclaims]
      rfl
    · rw [hclaims]
      rfl

/-- A role is held without a conflict exactly if at most one binding claims it. -/
theorem exists_roleHolder_eq_ok_iff :
    (∃ holder, roleHolder role bindings = .ok holder) ↔
      bindings.countP (·.spec.claims role) ≤ 1 := by
  simp only [roleHolder_eq_ok_iff, List.countP_eq_length_filter]
  constructor
  · rintro ⟨_, claimant, hclaims, -⟩
    rw [hclaims]
    exact Option.length_toList_le
  · intro h
    cases hclaims : bindings.filter (·.spec.claims role) with
    | nil => exact ⟨_, none, rfl, rfl⟩
    | cons a rest =>
      rw [hclaims, List.length_cons] at h
      obtain rfl := List.length_eq_zero_iff.1 (by omega : rest.length = 0)
      exact ⟨_, some a, rfl, rfl⟩

theorem mem_claimant_iff {claimant : Option Binding}
    (hclaims : bindings.filter (·.spec.claims role) = claimant.toList) :
    b ∈ claimant ↔ b ∈ bindings ∧ b.spec.claims role = true := by
  have hmem : b ∈ claimant.toList ↔ b ∈ bindings ∧ b.spec.claims role = true := by
    rw [← hclaims, List.mem_filter]
  rw [← hmem, Option.mem_toList, Option.mem_def]

/-- A lone network holds the gateway if it is static and claims no role at all. -/
theorem soleNetwork?_eq_some_iff {name : String} :
    soleNetwork? bindings = some name ↔ ∃ a, bindings = [a] ∧ a.spec.isDynamic = false ∧
      a.spec.default = [] ∧ a.network = name := by
  match bindings with
  | [] => simp [soleNetwork?]
  | [a] => simp [soleNetwork?, and_assoc]
  | a :: a' :: rest => simp [soleNetwork?]

/-- A binding holds the gateway if it claims it, or if it is alone, not dynamic, and claims nothing
at all. -/
theorem holder_eq_some_iff (hn : (bindings.map (·.network)).Nodup) {claimant : Option Binding}
    (hclaims : bindings.filter (·.spec.claims .gateway) = claimant.toList) (hb : b ∈ bindings) :
    (claimant.map (·.network)).or (soleNetwork? bindings) = some b.network ↔
      b.spec.claims .gateway = true ∨
        bindings = [b] ∧ b.spec.isDynamic = false ∧ b.spec.default = [] := by
  cases claimant with
  | none =>
    -- nobody claims the gateway, so it is left to a binding that is alone
    have hnobody : b.spec.claims .gateway = false := by
      have hnil := List.filter_eq_nil_iff.1 hclaims b hb
      simpa using hnil
    rw [Option.map_none, Option.none_or, soleNetwork?_eq_some_iff, hnobody]
    constructor
    · rintro ⟨a, rfl, hstatic, hdefault, -⟩
      obtain rfl := List.mem_singleton.1 hb
      exact .inr ⟨rfl, hstatic, hdefault⟩
    · rintro (hfalse | ⟨hsole, hstatic, hdefault⟩)
      · cases hfalse
      · exact ⟨b, hsole, hstatic, hdefault, rfl⟩
  | some a =>
    obtain ⟨ha, hclaim⟩ := (mem_claimant_iff hclaims).1 (Option.mem_some_self a)
    rw [Option.map_some, Option.some_or, Option.some.injEq]
    constructor
    · intro h
      obtain rfl := eq_of_network_eq hn ha hb h
      exact .inl hclaim
    · rintro (h | ⟨rfl, -, hdefault⟩)
      · have hmem : b ∈ some a := (mem_claimant_iff hclaims).2 ⟨hb, h⟩
        rw [Option.mem_some.1 hmem]
      · rw [List.mem_singleton.1 ha]

/-! ### Nameservers -/

/-- What each of the given literals is read as. -/
def ReadsAsAll {α : Type} (parse : String → Option α) (literals : List String) (as : List α) :
    Prop :=
  List.Forall₂ (fun text a ↦ parse (Text.trim text) = some a) literals as

/-- A list of literals can be read exactly if each of them can. -/
theorem exists_readsAsAll_iff {α : Type} {parse : String → Option α} {literals : List String} :
    (∃ as, ReadsAsAll parse literals as) ↔
      ∀ text ∈ literals, ∃ a, parse (Text.trim text) = some a :=
  exists_forall₂_iff

/-- The nameservers of the host are those of the binding that claims the dns role. -/
theorem hostNameservers_eq_ok_iff (hn : (bindings.map (·.network)).Nodup)
    {claimant : Option Binding}
    (hclaims : bindings.filter (·.spec.claims .dns) = claimant.toList) {dns : List IpAddress} :
    hostNameservers bindings (claimant.map (·.network)) = .ok dns ↔
      match claimant with
      | none => dns = []
      | some a => ReadsAsAll IpAddress.ofText? a.spec.dns dns := by
  cases claimant with
  | none => exact ⟨fun h ↦ (Except.ok.inj h).symm, fun h ↦ congrArg Except.ok h.symm⟩
  | some a =>
    obtain ⟨ha, -⟩ := (mem_claimant_iff hclaims).1 (Option.mem_some_self a)
    rw [hostNameservers, Option.map_some, Option.bind_some, find?_network_eq hn ha]
    dsimp only
    rw [mapM_eq_ok_iff]
    simp only [Binding.read_eq_ok_iff]
    rfl

/-! ### All steps -/

/-- Roles are settled first, then the nameservers, and last each configuration by itself. -/
theorem deriveConfigs_eq_ok_iff {r : InterfaceConfigs} :
    deriveConfigs bindings = .ok r ↔ ∃ dnsHolder gatewayHolder,
      roleHolder .dns bindings = .ok dnsHolder ∧
      roleHolder .gateway bindings = .ok gatewayHolder ∧
      hostNameservers bindings dnsHolder = .ok r.dns ∧
      List.Forall₂ (fun b c ↦
          b.config (gatewayHolder.or (soleNetwork? bindings)) r.dns = .ok c)
        (bindings.mergeSort Binding.before) r.configs := by
  rw [deriveConfigs]
  simp only [bind_eq_ok_iff, mapM_eq_ok_iff]
  constructor
  · rintro ⟨dnsHolder, hdns, gatewayHolder, hgateway, dns, hservers, configs, hconfigs, hr⟩
    obtain rfl := Except.ok.inj hr
    exact ⟨dnsHolder, gatewayHolder, hdns, hgateway, hservers, hconfigs⟩
  · rintro ⟨dnsHolder, gatewayHolder, hdns, hgateway, hservers, hconfigs⟩
    exact ⟨dnsHolder, hdns, gatewayHolder, hgateway, r.dns, hservers, r.configs, hconfigs, rfl⟩

/-- The interfaces of the configurations are those of the bindings. -/
theorem perm_devices_of_deriveConfigs_eq_ok {r : InterfaceConfigs}
    (hr : deriveConfigs bindings = .ok r) :
    (r.configs.map (·.device)).Perm (bindings.map (·.device)) := by
  obtain ⟨dnsHolder, gatewayHolder, -, -, -, hconfigs⟩ := deriveConfigs_eq_ok_iff.1 hr
  have hdevices : List.Forall₂ (fun b c ↦ b.device = c.device)
      (bindings.mergeSort Binding.before) r.configs :=
    hconfigs.imp fun _ _ hc ↦ (Binding.device_eq_of_config_eq_ok hc).symm
  have hmap : (bindings.mergeSort Binding.before).map (·.device) = r.configs.map (·.device) := by
    rw [← List.forall₂_eq_eq_eq, List.forall₂_map_left_iff, List.forall₂_map_right_iff]
    exact hdevices
  rw [← hmap]
  exact (List.mergeSort_perm bindings Binding.before).map (·.device)

end NetReconcile
