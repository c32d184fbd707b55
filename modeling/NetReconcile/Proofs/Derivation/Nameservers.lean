import NetReconcile.Proofs.Derivation.Correspondence

/-!
# What nameservers have a part in

The nameservers of the host are lent to every static configuration, and nothing else in the
configurations hangs on the nameservers that networks name. So networks that differ in nothing else
have the same configurations, but for the nameservers that are lent.

## Main definitions

* `NetworkSpec.SameButDns`: the same network with other nameservers.
* `InterfaceConfig.lend`: a configuration to which other nameservers are lent.
* `InterfaceConfigs.Relent`: configurations that differ in the nameservers that are lent.

## Main statements

* `relent_of_deriveConfigs`: other nameservers are lent, and nothing else changes.
-/

namespace NetReconcile

/-- The same network with other nameservers. -/
def NetworkSpec.SameButDns (spec spec' : NetworkSpec) : Prop :=
  spec' = { spec with dns := spec'.dns }

/-- Other nameservers change nothing of what binding looks at. -/
theorem keepsHardware_sameButDns : KeepsHardware NetworkSpec.SameButDns where
  isVip_eq h := by rw [h]; rfl
  macAddress?_eq h := by rw [h]; rfl

/-- Other nameservers change neither the kind of a network nor the roles that it claims. -/
theorem keepsRoles_sameButDns : KeepsRoles NetworkSpec.SameButDns where
  kind_eq h := by rw [h]
  default_eq h := by rw [h]

/-! ### Lending -/

namespace InterfaceConfig

/-- The configuration with the given nameservers. Dynamic configurations are lent none. -/
def lend (dns : List IpAddress) (c : InterfaceConfig) : InterfaceConfig :=
  if c.isDhcp then c else { c with dns := dns }

variable {c : InterfaceConfig} {dns : List IpAddress}

/-- Nothing is lent to an interface by DHCP, which learns of nameservers by itself. -/
theorem lend_of_isDhcp (h : c.isDhcp = true) : c.lend dns = c :=
  if_pos h

theorem lend_of_static (h : c.isDhcp = false) : c.lend dns = { c with dns := dns } :=
  if_neg (by rw [h]; exact Bool.false_ne_true)

@[simp]
theorem device_lend (dns : List IpAddress) (c : InterfaceConfig) :
    (c.lend dns).device = c.device := by
  cases h : c.isDhcp with
  | true => rw [lend_of_isDhcp h]
  | false => rw [lend_of_static h]

@[simp]
theorem isDhcp_lend (dns : List IpAddress) (c : InterfaceConfig) :
    (c.lend dns).isDhcp = c.isDhcp := by
  cases h : c.isDhcp with
  | true => rw [lend_of_isDhcp h, h]
  | false =>
    rw [lend_of_static h]
    exact h

end InterfaceConfig

/-- The second configurations are the first ones with other nameservers lent to them. -/
structure InterfaceConfigs.Relent (r r' : InterfaceConfigs) : Prop where
  lent : ∀ c ∈ r.configs, c.lend r.dns = c
  relent : r'.configs = r.configs.map (·.lend r'.dns)
  /-- Without a configuration there is nobody to lend nameservers. -/
  dns_eq_nil : r.configs = [] → r.dns = [] ∧ r'.dns = []

/-! ### Configurations -/

namespace Binding

variable {b b' : Binding} {holder : Option String} {dns dns' : List IpAddress}
  {c : InterfaceConfig}

/-- Other nameservers are lent to a static configuration, and nothing else changes. -/
theorem config_eq_ok_of_sameButDns (h : b.Corresponds NetworkSpec.SameButDns b')
    (hc : b.config holder dns = .ok c) : b'.config holder dns' = .ok (c.lend dns') := by
  have hip : b'.spec.ip = b.spec.ip := congrArg (·.ip) h.spec
  have hnetmask : b'.spec.netmask = b.spec.netmask := congrArg (·.netmask) h.spec
  have hgateway : b'.spec.gateway = b.spec.gateway := congrArg (·.gateway) h.spec
  unfold config at hc ⊢
  rw [h.isDynamic_eq keepsRoles_sameButDns]
  split at hc
  · rename_i hdynamic
    obtain ⟨detected, hd, rfl⟩ := dhcpConfig_eq_ok_iff.1 hc
    rw [if_pos hdynamic, InterfaceConfig.lend_of_isDhcp rfl, dhcpConfig_eq_ok_iff]
    exact ⟨detected, hip ▸ hd, by rw [h.network_eq, h.device_eq]⟩
  · rename_i hstatic
    obtain ⟨address, netmask, gateway, ha, hn, hg, rfl⟩ := staticConfig_eq_ok_iff.1 hc
    rw [if_neg hstatic, InterfaceConfig.lend_of_static rfl, staticConfig_eq_ok_iff]
    exact ⟨address, netmask, gateway, hip ▸ ha, hnetmask ▸ hn, hgateway ▸ hg,
      by rw [h.network_eq, h.device_eq]⟩

/-- A static configuration has the nameservers that are lent to it. -/
theorem lend_eq_of_config_eq_ok (hc : b.config holder dns = .ok c) : c.lend dns = c := by
  have hsame : b.Corresponds NetworkSpec.SameButDns b := ⟨rfl, rfl, rfl⟩
  exact Except.ok.inj ((config_eq_ok_of_sameButDns hsame hc).symm.trans hc)

end Binding

/-! ### All configurations -/

section

variable {bindings bindings' : List Binding} {r r' : InterfaceConfigs}

/-- Without bindings there is nothing to derive. -/
theorem dns_eq_nil_of_configs_eq_nil (hr : deriveConfigs bindings = .ok r) (hnil : r.configs = []) :
    r.dns = [] := by
  obtain ⟨dnsHolder, gatewayHolder, hdns, -, hservers, hconfigs⟩ := deriveConfigs_eq_ok_iff.1 hr
  have hlength := hconfigs.length_eq
  rw [hnil, List.length_mergeSort, List.length_nil, List.length_eq_zero_iff] at hlength
  subst hlength
  obtain rfl : none = dnsHolder := Except.ok.inj hdns
  exact (Except.ok.inj hservers).symm

/-- Bindings that differ in their nameservers have the same configurations, but for the nameservers
that are lent. -/
theorem relent_of_deriveConfigs
    (h : List.Forall₂ (Binding.Corresponds NetworkSpec.SameButDns) bindings bindings')
    (hr : deriveConfigs bindings = .ok r) (hr' : deriveConfigs bindings' = .ok r') :
    r.Relent r' := by
  obtain ⟨-, gatewayHolder, -, hgateway, -, hconfigs⟩ := deriveConfigs_eq_ok_iff.1 hr
  obtain ⟨-, gatewayHolder', -, hgateway', -, hconfigs'⟩ := deriveConfigs_eq_ok_iff.1 hr'
  rw [roleHolder_eq_of_corresponds keepsRoles_sameButDns h, hgateway, Except.ok.injEq] at hgateway'
  rw [← hgateway', soleNetwork?_eq_of_corresponds keepsRoles_sameButDns h] at hconfigs'
  have hlent : ∀ c ∈ r.configs, c.lend r.dns = c := by
    intro c hc
    obtain ⟨b, -, hb⟩ := exists_mem_of_forall₂ hconfigs hc
    exact Binding.lend_eq_of_config_eq_ok hb
  have hpaired : List.Forall₂
      (fun b c ↦ b.config (gatewayHolder.or (soleNetwork? bindings)) r'.dns = .ok c)
      (bindings'.mergeSort Binding.before) (r.configs.map (·.lend r'.dns)) := by
    rw [List.forall₂_map_right_iff]
    exact forall₂_of_forall₂ (forall₂_mergeSort_before keepsRoles_sameButDns h) hconfigs
      fun _ _ _ hb hc ↦ Binding.config_eq_ok_of_sameButDns hb hc
  have hrelent : r'.configs = r.configs.map (·.lend r'.dns) :=
    Except.ok.inj ((mapM_eq_ok_iff.2 hconfigs').symm.trans (mapM_eq_ok_iff.2 hpaired))
  refine ⟨hlent, hrelent, fun hnil ↦ ?_⟩
  have hnil' : r'.configs = [] := by rw [hrelent, hnil, List.map_nil]
  exact ⟨dns_eq_nil_of_configs_eq_nil hr hnil, dns_eq_nil_of_configs_eq_nil hr' hnil'⟩

end

end NetReconcile
