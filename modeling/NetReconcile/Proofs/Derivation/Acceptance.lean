import NetReconcile.Proofs.Derivation.Roles

/-!
# When configurations can be derived

Configurations are derived from bindings or an error says why not. What decides is listed in
`Acceptable`, and nothing else does: a role is claimed at most once, the nameservers of the binding
that claims the dns role can be read, and so can the literals that each single binding needs. What
the derivation does not need may be malformed, such as the nameservers of a network that does not
claim the dns role, or the netmask and the gateway of a dynamic network.

## Main definitions

* `Acceptable`: what the derivation asks of bindings.

## Main statements

* `exists_deriveConfigs_eq_ok_iff`: configurations are derived from acceptable bindings, and from no
  others.
-/

namespace NetReconcile

/-- What the derivation of configurations asks of bindings. -/
structure Acceptable (bindings : List Binding) : Prop where
  /-- At most one binding claims the dns role. -/
  dns_claims : bindings.countP (·.spec.claims .dns) ≤ 1
  /-- At most one binding claims the gateway role. -/
  gateway_claims : bindings.countP (·.spec.claims .gateway) ≤ 1
  /-- The nameservers of the binding that claims the dns role are addresses, up to blanks. -/
  nameservers : ∀ b ∈ bindings, b.spec.claims .dns = true →
    ∀ text ∈ b.spec.dns, ∃ ip, IpAddress.ofText? (Text.trim text) = some ip
  /-- The literals that the configuration of each binding needs can be read. -/
  readable : ∀ b ∈ bindings, b.spec.Readable

section

variable {bindings : List Binding}

/-- Bindings from which something was derived were acceptable. -/
theorem acceptable_of_deriveConfigs_eq_ok (hn : (bindings.map (·.network)).Nodup)
    {r : InterfaceConfigs} (hr : deriveConfigs bindings = .ok r) : Acceptable bindings := by
  obtain ⟨dnsHolder, gatewayHolder, hdns, hgateway, hservers, hconfigs⟩ :=
    deriveConfigs_eq_ok_iff.1 hr
  refine ⟨exists_roleHolder_eq_ok_iff.1 ⟨_, hdns⟩, exists_roleHolder_eq_ok_iff.1 ⟨_, hgateway⟩,
    fun b hb hclaim ↦ ?_, fun b hb ↦ ?_⟩
  · obtain ⟨claimant, hclaims, rfl⟩ := roleHolder_eq_ok_iff.1 hdns
    obtain rfl : claimant = some b := (mem_claimant_iff hclaims).2 ⟨hb, hclaim⟩
    have hread := (hostNameservers_eq_ok_iff hn hclaims).1 hservers
    exact exists_readsAsAll_iff.1 ⟨_, hread⟩
  · have hconfig := exists_forall₂_iff.1 ⟨_, hconfigs⟩ b (List.mem_mergeSort.2 hb)
    exact (b.exists_config_eq_ok_iff _ _).1 hconfig

/-- The nameservers of the host can be read if those of the claimant can. -/
theorem Acceptable.exists_hostNameservers_eq_ok (ha : Acceptable bindings)
    (hn : (bindings.map (·.network)).Nodup) {claimant : Option Binding}
    (hclaims : bindings.filter (·.spec.claims .dns) = claimant.toList) :
    ∃ dns, hostNameservers bindings (claimant.map (·.network)) = .ok dns := by
  cases claimant with
  | none => exact ⟨[], rfl⟩
  | some b =>
    obtain ⟨hb, hclaim⟩ := (mem_claimant_iff hclaims).1 (Option.mem_some_self b)
    obtain ⟨dns, hdns⟩ := exists_readsAsAll_iff.2 (ha.nameservers b hb hclaim)
    exact ⟨dns, (hostNameservers_eq_ok_iff hn hclaims).2 hdns⟩

/-- Acceptable bindings pass every check of the derivation. -/
theorem Acceptable.exists_deriveConfigs_eq_ok (ha : Acceptable bindings)
    (hn : (bindings.map (·.network)).Nodup) : ∃ r, deriveConfigs bindings = .ok r := by
  obtain ⟨dnsHolder, hdns⟩ := exists_roleHolder_eq_ok_iff.2 ha.dns_claims
  obtain ⟨gatewayHolder, hgateway⟩ := exists_roleHolder_eq_ok_iff.2 ha.gateway_claims
  obtain ⟨claimant, hclaims, rfl⟩ := roleHolder_eq_ok_iff.1 hdns
  obtain ⟨dns, hservers⟩ := ha.exists_hostNameservers_eq_ok hn hclaims
  -- whether a binding has a configuration hangs neither on the nameservers nor on the gateway
  have hall : ∀ b ∈ bindings.mergeSort Binding.before,
      ∃ c, b.config (gatewayHolder.or (soleNetwork? bindings)) dns = .ok c :=
    fun b hb ↦ (b.exists_config_eq_ok_iff _ _).2 (ha.readable b (List.mem_mergeSort.1 hb))
  obtain ⟨configs, hconfigs⟩ := exists_forall₂_iff.2 hall
  exact ⟨⟨configs, dns⟩,
    deriveConfigs_eq_ok_iff.2 ⟨_, gatewayHolder, hdns, hgateway, hservers, hconfigs⟩⟩

/-- Configurations are derived from acceptable bindings, and from no others. -/
theorem exists_deriveConfigs_eq_ok_iff (hn : (bindings.map (·.network)).Nodup) :
    (∃ r, deriveConfigs bindings = .ok r) ↔ Acceptable bindings := by
  constructor
  · rintro ⟨r, hr⟩
    exact acceptable_of_deriveConfigs_eq_ok hn hr
  · intro ha
    exact ha.exists_deriveConfigs_eq_ok hn

end

/-- Bindings of which only what is needed can be read: a static network that claims both roles and
has blanks around its literals, a static network with a malformed nameserver, and a dynamic network
with nothing but malformed literals. -/
def sloppyBindings : List Binding := [
  ⟨"lan", { ip := some " 10.0.0.5\n", netmask := some "\t255.255.255.0", gateway := some "10.0.0.1 "
            dns := [" fe80::1 ", "10.0.0.1"], default := [.dns, .gateway, .dns] }, "eth0"⟩,
  ⟨"backup", { ip := some "10.1.0.5", netmask := some "0.0.0.0", dns := ["nowhere"] }, "eth1"⟩,
  ⟨"wan", { kind := .dynamic, netmask := some "255.0.255.0", gateway := some "", dns := [""] },
    "eth2"⟩]

/-- What is needed of these bindings can be read, so configurations are derived from them. -/
theorem exists_deriveConfigs_sloppyBindings :
    (sloppyBindings.map (·.network)).Nodup ∧ Acceptable sloppyBindings ∧
      ∃ r, deriveConfigs sloppyBindings = .ok r := by
  have hn : (sloppyBindings.map (·.network)).Nodup := by decide
  have hreadable : ∀ b ∈ sloppyBindings, b.spec.Readable := by
    simp only [sloppyBindings, List.forall_mem_cons]
    refine ⟨.static rfl ⟨.ofOctets 10 0 0 5, _, rfl, by decide⟩
        ⟨.ofOctets 255 255 255 0, ⟨_, rfl, by decide⟩, 24, by decide, by decide⟩
        (.inr ⟨.ofOctets 10 0 0 1, _, rfl, by decide⟩),
      .static rfl ⟨.ofOctets 10 1 0 5, _, rfl, by decide⟩
        ⟨.ofOctets 0 0 0 0, ⟨_, rfl, by decide⟩, 0, by decide, by decide⟩ (.inl rfl),
      .dynamic rfl (.inl rfl), by simp⟩
  have hservers : ∀ b ∈ sloppyBindings, b.spec.claims .dns = true →
      ∀ text ∈ b.spec.dns, (IpAddress.ofText? (Text.trim text)).isSome := by decide
  have ha : Acceptable sloppyBindings :=
    ⟨by decide, by decide, fun b hb hclaim text htext ↦
      Option.isSome_iff_exists.1 (hservers b hb hclaim text htext), hreadable⟩
  exact ⟨hn, ha, (exists_deriveConfigs_eq_ok_iff hn).2 ha⟩

end NetReconcile
