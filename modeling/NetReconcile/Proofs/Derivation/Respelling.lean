import NetReconcile.Proofs.Derivation.Correspondence
import NetReconcile.Proofs.Text.Spelling

/-!
# Literals that are spelled otherwise

An operator may write a literal with blanks at its ends, and a hardware address in letters of either
case. Networks that differ in nothing else are bound to the same interfaces, and the same
configurations are derived from them. A text that is empty for one spelling may be blank for the
other; it is not read as anything either way, though the errors may differ.

## Main definitions

* `NetworkSpec.Respelled`: the same network with its literals spelled otherwise.

## Main statements

* `NetworkSpec.Respelled.macAddress?_eq`: it names the same hardware address.
* `Binding.config_eq_ok_iff_of_respelled`: it has the same configuration.
* `deriveConfigs_eq_ok_iff_of_respelled`: the same configurations are derived.
-/

namespace NetReconcile

/-- A hardware address with letters of other case and with blanks added at its ends. -/
def RespelledMac (text text' : String) : Prop :=
  ∃ cased, Text.lowerAscii cased = Text.lowerAscii text ∧ Text.Padded cased text'

/-- A network whose literals are spelled otherwise. -/
structure NetworkSpec.Respelled (spec spec' : NetworkSpec) : Prop where
  kind_eq : spec'.kind = spec.kind
  default_eq : spec'.default = spec.default
  ip : Option.Rel Text.Padded spec.ip spec'.ip
  netmask : Option.Rel Text.Padded spec.netmask spec'.netmask
  gateway : Option.Rel Text.Padded spec.gateway spec'.gateway
  dns : List.Forall₂ Text.Padded spec.dns spec'.dns
  mac : Option.Rel RespelledMac spec.mac spec'.mac

/-! ### Hardware addresses -/

/-- Hardware addresses are compared without blanks at their ends and in lower case, so the spelling
is lost. -/
theorem RespelledMac.lowerAscii_trim_eq {text text' : String} (h : RespelledMac text text') :
    Text.lowerAscii (Text.trim text') = Text.lowerAscii (Text.trim text) := by
  obtain ⟨cased, hcased, hpadded⟩ := h
  calc Text.lowerAscii (Text.trim text')
      = Text.lowerAscii (Text.trim cased) := by rw [Text.trim_eq_of_padded hpadded]
    _ = Text.trim (Text.lowerAscii cased) := (Text.trim_lowerAscii cased).symm
    _ = Text.trim (Text.lowerAscii text) := by rw [hcased]
    _ = Text.lowerAscii (Text.trim text) := Text.trim_lowerAscii text

/-- A text names a hardware address if it is not blank, whatever its case. -/
theorem NetworkSpec.macAddress?_eq_filter (spec : NetworkSpec) :
    spec.macAddress? =
      (spec.mac.map fun text ↦ Text.lowerAscii (Text.trim text)).filter (· ≠ "") := by
  rw [macAddress?]
  cases spec.mac with
  | none => rfl
  | some text =>
    simp only [Option.map_some, Option.filter_some, decide_not, Text.lowerAscii_eq_empty_iff]
    split
    · rfl
    · rfl

/-- A network names the same hardware address however it is spelled. -/
theorem NetworkSpec.Respelled.macAddress?_eq {spec spec' : NetworkSpec}
    (h : spec.Respelled spec') : spec'.macAddress? = spec.macAddress? := by
  rw [macAddress?_eq_filter, macAddress?_eq_filter]
  have hmac := h.mac
  generalize spec.mac = mac, spec'.mac = mac' at hmac
  cases hmac with
  | none => rfl
  | some htext => rw [Option.map_some, Option.map_some, htext.lowerAscii_trim_eq]

/-- Another spelling changes nothing of what binding looks at. -/
theorem keepsHardware_respelled : KeepsHardware NetworkSpec.Respelled where
  isVip_eq h := by rw [NetworkSpec.isVip, h.kind_eq, NetworkSpec.isVip]
  macAddress?_eq h := h.macAddress?_eq

/-- Another spelling changes neither the kind of a network nor the roles that it claims. -/
theorem keepsRoles_respelled : KeepsRoles NetworkSpec.Respelled where
  kind_eq h := h.kind_eq
  default_eq h := h.default_eq

/-! ### Reading -/

section

variable {α : Type} {parse : String → Option α} {literal literal' : Option String}

/-- A literal is read as the same with other blanks at its ends. -/
theorem readsAs_iff_of_padded (h : Option.Rel Text.Padded literal literal') {a : α} :
    ReadsAs parse literal' a ↔ ReadsAs parse literal a := by
  cases h with
  | none => rfl
  | some hpadded => simp [ReadsAs, Text.trim_eq_of_padded hpadded]

theorem readsAsOptional_iff_of_padded (h : Option.Rel Text.Padded literal literal')
    {a : Option α} : ReadsAsOptional parse literal' a ↔ ReadsAsOptional parse literal a := by
  cases h with
  | none => rfl
  | some hpadded =>
    rw [ReadsAsOptional, ReadsAsOptional]
    cases a with
    | none => exact ⟨nofun, nofun⟩
    | some a => simp [Text.trim_eq_of_padded hpadded]

theorem readsAsAll_iff_of_padded {literals literals' : List String}
    (h : List.Forall₂ Text.Padded literals literals') {as : List α} :
    ReadsAsAll parse literals' as ↔ ReadsAsAll parse literals as :=
  forall₂_iff_of_forall₂ h (fun _ _ _ hpadded ↦ by rw [Text.trim_eq_of_padded hpadded]) as

end

/-! ### Configurations -/

section

variable {b b' : Binding} {bindings bindings' : List Binding}

/-- A network has the same configuration however its literals are spelled. -/
theorem Binding.config_eq_ok_iff_of_respelled (h : b.Corresponds NetworkSpec.Respelled b')
    (holder : Option String) (dns : List IpAddress) (c : InterfaceConfig) :
    b'.config holder dns = .ok c ↔ b.config holder dns = .ok c := by
  rw [config, config, h.isDynamic_eq keepsRoles_respelled]
  split
  · rw [dhcpConfig_eq_ok_iff, dhcpConfig_eq_ok_iff, h.network_eq, h.device_eq]
    simp only [readsAsOptional_iff_of_padded h.spec.ip]
  · rw [staticConfig_eq_ok_iff, staticConfig_eq_ok_iff, h.network_eq, h.device_eq]
    simp only [readsAs_iff_of_padded h.spec.ip, readsAs_iff_of_padded h.spec.netmask,
      readsAsOptional_iff_of_padded h.spec.gateway]

/-- The nameservers of the host are the same. -/
theorem hostNameservers_eq_ok_iff_of_respelled
    (h : List.Forall₂ (Binding.Corresponds NetworkSpec.Respelled) bindings bindings')
    (holder : Option String) (dns : List IpAddress) :
    hostNameservers bindings' holder = .ok dns ↔ hostNameservers bindings holder = .ok dns := by
  cases holder with
  | none => rfl
  | some name =>
    have hfound := rel_find?_network h name
    rw [hostNameservers, hostNameservers, Option.bind_some, Option.bind_some]
    generalize bindings.find? (·.network = name) = found,
      bindings'.find? (·.network = name) = found' at hfound
    cases hfound with
    | none => rfl
    | some hb =>
      dsimp only
      rw [mapM_eq_ok_iff, mapM_eq_ok_iff]
      simp only [Binding.read_eq_ok_iff]
      exact readsAsAll_iff_of_padded hb.spec.dns

/-- The same configurations are derived however literals are spelled. -/
theorem deriveConfigs_eq_ok_iff_of_respelled
    (h : List.Forall₂ (Binding.Corresponds NetworkSpec.Respelled) bindings bindings')
    (r : InterfaceConfigs) : deriveConfigs bindings' = .ok r ↔ deriveConfigs bindings = .ok r := by
  have hsorted := forall₂_mergeSort_before keepsRoles_respelled h
  have hconfigs : ∀ holder,
      List.Forall₂ (fun b c ↦ b.config holder r.dns = .ok c) (bindings'.mergeSort Binding.before)
          r.configs ↔
        List.Forall₂ (fun b c ↦ b.config holder r.dns = .ok c) (bindings.mergeSort Binding.before)
          r.configs := fun holder ↦
    forall₂_iff_of_forall₂ hsorted
      (fun _ _ c hb ↦ Binding.config_eq_ok_iff_of_respelled hb holder r.dns c) r.configs
  rw [deriveConfigs_eq_ok_iff, deriveConfigs_eq_ok_iff]
  simp only [roleHolder_eq_of_corresponds keepsRoles_respelled h,
    soleNetwork?_eq_of_corresponds keepsRoles_respelled h,
    hostNameservers_eq_ok_iff_of_respelled h, hconfigs]

end

end NetReconcile
