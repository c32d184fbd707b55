import NetReconcile.Proofs.Derivation.Roles
import NetReconcile.Proofs.Text.ByteOrder

/-!
# What is derived from bindings

When configurations are derived from bindings, there is one for each binding, and it can be told
from the binding alone what it says, but for the nameservers that all static configurations share
and for the one gateway. The order in which the configurations come is that of `Binding.before`,
which is strict where no two bindings are for one network.

## Main definitions

* `Configures`: a configuration is that of a binding.
* `Derived`: configurations and nameservers are those that bindings call for.

## Main statements

* `derived_of_deriveConfigs_eq_ok`: what is derived from bindings is what they call for.

## What is local and what is not

`Configures` is about one binding and one configuration. Two things in it look beyond the binding,
and come in as parameters: the nameservers of the host, and whether the binding holds the gateway.
`Derived` says the rest, which is about the list as a whole: that there is one configuration for
each binding, that they are in strict order, and that at most one of them has a gateway. The last
follows from the order: two configurations with a gateway would be of one network.
-/

namespace NetReconcile

/-! ### Specification -/

/-- The configuration `c` is that of the binding `b`, which is one of `bindings`, on a host with the
nameservers `dns`. -/
structure Configures (bindings : List Binding) (dns : List IpAddress) (b : Binding)
    (c : InterfaceConfig) : Prop where
  network_eq : c.network = b.network
  device_eq : c.device = b.device
  /-- A static configuration carries what its address and netmask are read as, and the address in
  which all bits outside the netmask are set. It has the nameservers of the host. -/
  static : b.spec.isDynamic = false → c.dns = dns ∧ ∃ address netmask : IPv4,
    ReadsAs IPv4.ofText? b.spec.ip address ∧ ReadsAs IPv4.ofText? b.spec.netmask netmask ∧
      c.protocol = .static ⟨address, netmask, ⟨address.bits ||| ~~~netmask.bits⟩⟩
  /-- A dynamic configuration carries what its address is read as, if there is one, and nothing
  else. -/
  dynamic : b.spec.isDynamic = true → c.dns = [] ∧ c.gateway = none ∧
    ∃ detected, ReadsAsOptional IPv4.ofText? b.spec.ip detected ∧ c.protocol = .dhcp detected
  /-- There is a gateway only where the role is claimed, or where a binding that is alone claims no
  role at all. -/
  gateway_iff : ∀ g, c.gateway = some g ↔ b.spec.isDynamic = false ∧
    ReadsAs IPv4.ofText? b.spec.gateway g ∧
      (b.spec.claims .gateway = true ∨ bindings = [b] ∧ b.spec.default = [])

/-- The configurations and nameservers in `r` are those that `bindings` call for. -/
structure Derived (bindings : List Binding) (r : InterfaceConfigs) : Prop where
  /-- There is one configuration for each binding. -/
  paired : ∃ ordered : List Binding, ordered.Perm bindings ∧
    List.Forall₂ (Configures bindings r.dns) ordered r.configs
  /-- Static configurations come before dynamic ones, and each kind is in the order of the UTF-8
  bytes of the names of networks. -/
  ordered : r.configs.Pairwise fun c d ↦ c.isDhcp = false ∧ d.isDhcp = true ∨
    c.isDhcp = d.isDhcp ∧ Text.toBytes c.network < Text.toBytes d.network
  /-- At most one configuration has a gateway. -/
  gateway_unique : r.configs.Pairwise fun c d ↦ c.gateway = none ∨ d.gateway = none
  /-- At most one binding claims the dns role, and the nameservers are what its own are read as. -/
  dns_claims : bindings.countP (·.spec.claims .dns) ≤ 1
  dns_of_claimant : ∀ b ∈ bindings, b.spec.claims .dns = true →
    ReadsAsAll IpAddress.ofText? b.spec.dns r.dns
  dns_of_unclaimed : (∀ b ∈ bindings, b.spec.claims .dns = false) → r.dns = []

/-! ### One configuration -/

section

variable {bindings : List Binding} {b : Binding} {dns : List IpAddress} {c : InterfaceConfig}

/-- A configuration is by DHCP exactly if its network is dynamic. -/
theorem Configures.isDhcp_eq (hc : Configures bindings dns b c) : c.isDhcp = b.spec.isDynamic := by
  cases hdynamic : b.spec.isDynamic with
  | false =>
    obtain ⟨-, address, netmask, -, -, hprotocol⟩ := hc.static hdynamic
    rw [InterfaceConfig.isDhcp, hprotocol]
  | true =>
    obtain ⟨-, -, detected, -, hprotocol⟩ := hc.dynamic hdynamic
    rw [InterfaceConfig.isDhcp, hprotocol]

/-- `holds` says whether the binding holds the gateway. -/
theorem configures_of_staticConfig_eq_ok {holds : Bool} (hstatic : b.spec.isDynamic = false)
    (hholds : holds = true ↔
      b.spec.claims .gateway = true ∨ bindings = [b] ∧ b.spec.default = [])
    (hc : b.staticConfig holds dns = .ok c) : Configures bindings dns b c := by
  obtain ⟨address, netmask, gateway, ha, ⟨hn, -⟩, hg, rfl⟩ := Binding.staticConfig_eq_ok_iff.1 hc
  refine ⟨rfl, rfl, fun _ ↦ ⟨rfl, address, netmask, ha, hn, rfl⟩, fun hdynamic ↦ ?_, fun g ↦ ?_⟩
  · rw [hstatic] at hdynamic
    cases hdynamic
  · rw [← hholds]
    constructor
    · intro h
      cases holds with
      | false => cases h
      | true =>
        obtain rfl : gateway = some g := h
        exact ⟨hstatic, readsAsOptional_some_iff.1 hg, rfl⟩
    · rintro ⟨-, hread, rfl⟩
      exact hg.eq_some_of_readsAs hread

/-- What is derived of a dynamic binding is its configuration. -/
theorem configures_of_dhcpConfig_eq_ok (hdynamic : b.spec.isDynamic = true)
    (hc : b.dhcpConfig = .ok c) : Configures bindings dns b c := by
  obtain ⟨detected, hd, rfl⟩ := Binding.dhcpConfig_eq_ok_iff.1 hc
  refine ⟨rfl, rfl, fun hstatic ↦ ?_, fun _ ↦ ⟨rfl, rfl, detected, hd, rfl⟩, fun g ↦ ?_⟩
  · rw [hdynamic] at hstatic
    cases hstatic
  · rw [hdynamic]
    simp

/-- What is derived of any binding is its configuration. -/
theorem configures_of_config_eq_ok (hn : (bindings.map (·.network)).Nodup)
    {claimant : Option Binding}
    (hclaims : bindings.filter (·.spec.claims .gateway) = claimant.toList) (hb : b ∈ bindings)
    (hc : b.config ((claimant.map (·.network)).or (soleNetwork? bindings)) dns = .ok c) :
    Configures bindings dns b c := by
  unfold Binding.config at hc
  split at hc
  · rename_i hdynamic
    exact configures_of_dhcpConfig_eq_ok hdynamic hc
  · rename_i hstatic
    rw [Bool.not_eq_true] at hstatic
    refine configures_of_staticConfig_eq_ok hstatic ?_ hc
    rw [decide_eq_true_iff, holder_eq_some_iff hn hclaims hb, hstatic]
    simp only [true_and]

end

/-! ### The order of configurations -/

namespace Binding

/-- Static bindings come first, and bindings of one kind are in the order of their names. -/
theorem before_iff {a b : Binding} : a.before b = true ↔
    a.spec.isDynamic = false ∧ b.spec.isDynamic = true ∨
      a.spec.isDynamic = b.spec.isDynamic ∧ a.network ≤ b.network := by
  unfold before
  cases a.spec.isDynamic <;> cases b.spec.isDynamic <;> simp

theorem before_trans (a b c : Binding) (hab : a.before b = true) (hbc : b.before c = true) :
    a.before c = true := by
  rw [before_iff] at hab hbc ⊢
  rcases hab with ⟨ha, hb⟩ | ⟨hab, hle⟩
  · rcases hbc with ⟨hb', -⟩ | ⟨hbc, -⟩
    · rw [hb] at hb'
      cases hb'
    · exact .inl ⟨ha, hbc ▸ hb⟩
  · rcases hbc with ⟨hb, hc⟩ | ⟨hbc, hle'⟩
    · exact .inl ⟨hab.trans hb, hc⟩
    · exact .inr ⟨hab.trans hbc, String.le_trans hle hle'⟩

theorem before_total (a b : Binding) : (a.before b || b.before a) = true := by
  rw [Bool.or_eq_true, before_iff, before_iff]
  have hle := String.le_total a.network b.network
  cases a.spec.isDynamic <;> cases b.spec.isDynamic <;> simp [hle]

/-- Bindings for different networks are in a strict order when they are sorted. -/
theorem pairwise_mergeSort_before {bindings : List Binding}
    (hn : (bindings.map (·.network)).Nodup) :
    (bindings.mergeSort before).Pairwise fun a b ↦
      a.spec.isDynamic = false ∧ b.spec.isDynamic = true ∨
        a.spec.isDynamic = b.spec.isDynamic ∧ a.network < b.network := by
  have hsorted := List.pairwise_mergeSort before_trans before_total bindings
  have hne : (bindings.mergeSort before).Pairwise fun a b ↦ a.network ≠ b.network := by
    refine List.pairwise_map.1 ?_
    exact ((List.mergeSort_perm bindings before).map (·.network)).nodup_iff.2 hn
  refine (hsorted.and hne).imp fun {a b} ⟨hbefore, hne⟩ ↦ ?_
  refine (before_iff.1 hbefore).imp_right fun ⟨hkind, hle⟩ ↦ ⟨hkind, ?_⟩
  by_contra hnot
  exact hne (String.le_antisymm hle hnot)

end Binding

section

variable {bindings ordered : List Binding} {r : InterfaceConfigs}

/-- Configurations are in the order of the bindings whose configurations they are. -/
theorem pairwise_configs (hpaired : List.Forall₂ (Configures bindings r.dns) ordered r.configs)
    (hordered : ordered.Pairwise fun a b ↦ a.spec.isDynamic = false ∧ b.spec.isDynamic = true ∨
      a.spec.isDynamic = b.spec.isDynamic ∧ a.network < b.network) :
    r.configs.Pairwise fun c d ↦ c.isDhcp = false ∧ d.isDhcp = true ∨
      c.isDhcp = d.isDhcp ∧ Text.toBytes c.network < Text.toBytes d.network := by
  -- the order is one of kinds and names, and those of a configuration are those of its binding
  have hkeys : ordered.map (fun b ↦ (b.spec.isDynamic, b.network)) =
      r.configs.map fun c ↦ (c.isDhcp, c.network) := by
    rw [← List.forall₂_eq_eq_eq, List.forall₂_map_left_iff, List.forall₂_map_right_iff]
    exact hpaired.imp fun b c hc ↦ by rw [hc.isDhcp_eq, hc.network_eq]
  have hbindings : (ordered.map fun b ↦ (b.spec.isDynamic, b.network)).Pairwise fun a b ↦
      a.1 = false ∧ b.1 = true ∨ a.1 = b.1 ∧ a.2 < b.2 :=
    List.pairwise_map.2 hordered
  rw [hkeys, List.pairwise_map] at hbindings
  refine hbindings.imp fun {c d} h ↦ ?_
  rw [Text.toBytes_lt_toBytes_iff]
  exact h

/-- At most one configuration has a gateway, because at most one network holds the role. -/
theorem pairwise_gateway {holder : Option String}
    (hordered : r.configs.Pairwise fun c d ↦ c.isDhcp = false ∧ d.isDhcp = true ∨
      c.isDhcp = d.isDhcp ∧ Text.toBytes c.network < Text.toBytes d.network)
    (hholds : ∀ c ∈ r.configs, c.gateway ≠ none → c.isDhcp = false ∧ holder = some c.network) :
    r.configs.Pairwise fun c d ↦ c.gateway = none ∨ d.gateway = none := by
  refine hordered.imp_of_mem fun {c d} hc hd h ↦ ?_
  by_contra hboth
  rw [not_or] at hboth
  obtain ⟨-, hcholds⟩ := hholds c hc hboth.1
  obtain ⟨hdstatic, hdholds⟩ := hholds d hd hboth.2
  have hname : c.network = d.network := Option.some.inj (hcholds.symm.trans hdholds)
  rcases h with ⟨-, hdynamic⟩ | ⟨-, hlt⟩
  · rw [hdstatic] at hdynamic
    cases hdynamic
  · rw [hname] at hlt
    exact List.lt_irrefl _ hlt

/-- A configuration with a gateway is static, and that of the network that holds the role. -/
theorem Configures.holds (hn : (bindings.map (·.network)).Nodup) {b : Binding}
    {c : InterfaceConfig} {claimant : Option Binding}
    (hclaims : bindings.filter (·.spec.claims .gateway) = claimant.toList) (hb : b ∈ bindings)
    (hc : Configures bindings r.dns b c) (hg : c.gateway ≠ none) :
    c.isDhcp = false ∧
      (claimant.map (·.network)).or (soleNetwork? bindings) = some c.network := by
  obtain ⟨g, hg⟩ := Option.ne_none_iff_exists'.1 hg
  obtain ⟨hstatic, -, hrole⟩ := (hc.gateway_iff g).1 hg
  rw [hc.isDhcp_eq, hc.network_eq, holder_eq_some_iff hn hclaims hb, hstatic]
  simpa only [true_and] using hrole

/-! ### All configurations -/

/-- What is derived from bindings for different networks is what they call for. -/
theorem derived_of_deriveConfigs_eq_ok (hn : (bindings.map (·.network)).Nodup)
    (hr : deriveConfigs bindings = .ok r) : Derived bindings r := by
  obtain ⟨dnsHolder, gatewayHolder, hdns, hgateway, hservers, hconfigs⟩ :=
    deriveConfigs_eq_ok_iff.1 hr
  obtain ⟨claimant, hclaims, rfl⟩ := roleHolder_eq_ok_iff.1 hdns
  obtain ⟨claimant', hclaims', rfl⟩ := roleHolder_eq_ok_iff.1 hgateway
  have hmem : ∀ b ∈ bindings.mergeSort Binding.before, b ∈ bindings :=
    fun b ↦ List.mem_mergeSort.1
  have hpaired : List.Forall₂ (Configures bindings r.dns) (bindings.mergeSort Binding.before)
      r.configs :=
    ((List.forall₂_and_left _ _).2 ⟨hmem, hconfigs⟩).imp fun b c ⟨hb, hc⟩ ↦
      configures_of_config_eq_ok hn hclaims' hb hc
  have hordered := pairwise_configs hpaired (Binding.pairwise_mergeSort_before hn)
  have hholds : ∀ c ∈ r.configs, c.gateway ≠ none → c.isDhcp = false ∧
      (claimant'.map (·.network)).or (soleNetwork? bindings) = some c.network := by
    intro c hc hg
    obtain ⟨b, hb, hconfigures⟩ := exists_mem_of_forall₂ hpaired hc
    exact hconfigures.holds hn hclaims' (hmem b hb) hg
  have hread := (hostNameservers_eq_ok_iff hn hclaims).1 hservers
  refine ⟨⟨_, List.mergeSort_perm _ _, hpaired⟩, hordered, pairwise_gateway hordered hholds,
    exists_roleHolder_eq_ok_iff.1 ⟨_, hdns⟩, fun b hb hclaim ↦ ?_, fun hunclaimed ↦ ?_⟩
  · obtain rfl : claimant = some b := (mem_claimant_iff hclaims).2 ⟨hb, hclaim⟩
    exact hread
  · cases claimant with
    | none => exact hread
    | some a =>
      obtain ⟨ha, hclaim⟩ := (mem_claimant_iff hclaims).1 (Option.mem_some_self a)
      rw [hunclaimed a ha] at hclaim
      cases hclaim

end

/-- A dynamic network whose address is known, and a static one that claims both roles. -/
def wanAndLan : List Binding := [
  ⟨"wan", { kind := .dynamic, ip := some "192.0.2.7 " }, "eth1"⟩,
  ⟨"lan", { ip := some " 10.0.0.5", netmask := some "255.255.255.0", gateway := some "10.0.0.1"
            dns := ["fe80::1\n", "10.0.0.1"], default := [.dns, .gateway] }, "eth0"⟩]

/-- What is derived from them: the static network comes first. -/
def wanAndLanConfigs : InterfaceConfigs :=
  let dns : List IpAddress :=
    [.v6 ⟨[0xfe80, 0, 0, 0, 0, 0, 0, 1], rfl⟩, .v4 (.ofOctets 10 0 0 1)]
  ⟨[⟨"lan", "eth0",
      .static ⟨.ofOctets 10 0 0 5, .ofOctets 255 255 255 0, .ofOctets 10 0 0 255⟩,
      some (.ofOctets 10 0 0 1), dns⟩,
    ⟨"wan", "eth1", .dhcp (some (.ofOctets 192 0 2 7)), none, []⟩], dns⟩

/-- Bindings of a dynamic network with a known address and of a static one that holds both roles. -/
theorem derived_wanAndLan :
    (wanAndLan.map (·.network)).Nodup ∧ deriveConfigs wanAndLan = .ok wanAndLanConfigs ∧
      Derived wanAndLan wanAndLanConfigs := by
  have hn : (wanAndLan.map (·.network)).Nodup := by decide
  have hsort : wanAndLan.mergeSort Binding.before = wanAndLan.reverse := by
    simp [List.mergeSort, wanAndLan, Binding.before, NetworkSpec.isDynamic]
  have hr : deriveConfigs wanAndLan = .ok wanAndLanConfigs := by
    refine deriveConfigs_eq_ok_iff.2 ⟨some "lan", some "lan", rfl, rfl, rfl, ?_⟩
    rw [hsort]
    exact .cons rfl (.cons rfl .nil)
  exact ⟨hn, hr, derived_of_deriveConfigs_eq_ok hn hr⟩

end NetReconcile
