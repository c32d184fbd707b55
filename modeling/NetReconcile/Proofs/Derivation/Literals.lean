import NetReconcile.Derivation.Basic
import NetReconcile.Proofs.Address.Subnet
import NetReconcile.Proofs.Checks

/-!
# Reading the literals of a network

Deriving a configuration is a sequence of checks, each of which answers or gives an error. For every
one of them it is said here exactly when it answers, and with what, so that no later proof has to
look into how a literal is read.

A literal is read up to blanks at its ends. `ReadsAs` says of a literal that it is there and what it
is read as; `ReadsAsOptional` also allows it to be missing, when there is nothing to be read.

## Main definitions

* `ReadsAs`, `ReadsAsOptional`: what the literals of a network say.
* `NetworkSpec.Readable`: all literals that the configuration of a network needs can be read.

## Main statements

* `Binding.staticConfig_eq_ok_iff`, `Binding.dhcpConfig_eq_ok_iff`: the configurations of a binding.
* `Binding.exists_config_eq_ok_iff`: a binding has a configuration exactly if its literals can be
  read, whoever holds the default roles.

Every check has a statement of the form "it answers `a` exactly if" (`_eq_ok_iff`). When checks are
put in sequence, `bind_eq_ok_iff` takes the whole apart into these, so a configuration that was
derived tells what all of its literals say. Errors are not described here: which one is reported
first is decided by the sequence.
-/

namespace NetReconcile

/-! ### Literals -/

/-- A literal is there, and is read as `a` when blanks at its ends are left out. -/
def ReadsAs {α : Type} (parse : String → Option α) (literal : Option String) (a : α) : Prop :=
  ∃ text, literal = some text ∧ parse (Text.trim text) = some a

/-- A literal is not there and nothing is read, or it is there and read as what is in `a`. -/
def ReadsAsOptional {α : Type} (parse : String → Option α) (literal : Option String)
    (a : Option α) : Prop :=
  Option.Rel (fun text a ↦ parse (Text.trim text) = some a) literal a

theorem readsAsOptional_some_iff {α : Type} {parse : String → Option α} {literal : Option String}
    {a : α} : ReadsAsOptional parse literal (some a) ↔ ReadsAs parse literal a := by
  constructor
  · rintro ⟨h⟩
    exact ⟨_, rfl, h⟩
  · rintro ⟨text, rfl, h⟩
    exact .some h

/-- A literal that is there and can be read is read as what it says. -/
theorem ReadsAsOptional.eq_some_of_readsAs {α : Type} {parse : String → Option α}
    {literal : Option String} {o : Option α} {a : α} (ho : ReadsAsOptional parse literal o)
    (ha : ReadsAs parse literal a) : o = some a := by
  obtain ⟨text, rfl, ha⟩ := ha
  cases ho with
  | some ho => rw [← ho, ← ha]

theorem exists_readsAsOptional_iff {α : Type} {parse : String → Option α}
    {literal : Option String} :
    (∃ a, ReadsAsOptional parse literal a) ↔ literal = none ∨ ∃ a, ReadsAs parse literal a := by
  constructor
  · rintro ⟨_ | a, h⟩
    · cases h
      exact .inl rfl
    · exact .inr ⟨a, readsAsOptional_some_iff.1 h⟩
  · rintro (rfl | ⟨a, h⟩)
    · exact ⟨none, .none⟩
    · exact ⟨some a, readsAsOptional_some_iff.2 h⟩

/-- All literals that the configuration of a network needs can be read. A dynamic network needs
none; its address may be there, and then it is read. -/
inductive NetworkSpec.Readable (spec : NetworkSpec) : Prop
  | static (hstatic : spec.isDynamic = false) (address : ∃ a, ReadsAs IPv4.ofText? spec.ip a)
    (netmask : ∃ m, ReadsAs IPv4.ofText? spec.netmask m ∧ m.IsSubnetMask)
    (gateway : spec.gateway = none ∨ ∃ g, ReadsAs IPv4.ofText? spec.gateway g)
  | dynamic (hdynamic : spec.isDynamic = true)
    (address : spec.ip = none ∨ ∃ a, ReadsAs IPv4.ofText? spec.ip a)

namespace Binding

section

variable {α : Type} {b : Binding} {parse : String → Option α} {literal : Literal}

/-- A literal is read up to blanks at its ends. -/
theorem read_eq_ok_iff {value : String} {a : α} :
    b.read parse literal value = .ok a ↔ parse (Text.trim value) = some a := by
  unfold read
  cases parse (Text.trim value) with
  | none => simp
  | some a' => simp

/-- A literal that need not be there is read if it is. -/
theorem readOptional_eq_ok_iff {value : Option String} {a : Option α} :
    b.readOptional parse literal value = .ok a ↔ ReadsAsOptional parse value a := by
  cases value with
  | none =>
    constructor
    · intro h
      obtain rfl : none = a := Except.ok.inj h
      exact .none
    · intro h
      cases h
      rfl
  | some value =>
    rw [readOptional, map_eq_ok_iff]
    constructor
    · rintro ⟨a, ha, rfl⟩
      exact .some (read_eq_ok_iff.1 ha)
    · intro h
      cases h with
      | some ha => exact ⟨_, read_eq_ok_iff.2 ha, rfl⟩

/-- A literal that is required must be there and must not be empty. -/
theorem require_eq_ok_iff {value : Option String} {text : String} :
    b.require literal value = .ok text ↔ value = some text ∧ text ≠ "" := by
  cases value with
  | none => simp [require]
  | some v =>
    by_cases hv : v = ""
    · subst hv
      simp [require, Option.filter_some]
    · simp only [require, Option.filter_some, decide_eq_true_iff, ne_eq, hv, not_false_eq_true,
        if_true, Except.ok.injEq, Option.some.injEq]
      exact ⟨fun h ↦ ⟨h, h ▸ hv⟩, fun h ↦ h.1⟩

/-- Asking for a text that is not empty excludes nothing that could be read. -/
theorem exists_require_iff (b : Binding) (literal : Literal) {value : Option String} {a : α}
    (hempty : parse "" = none) :
    (∃ text, b.require literal value = .ok text ∧ parse (Text.trim text) = some a) ↔
      ReadsAs parse value a := by
  simp only [require_eq_ok_iff]
  constructor
  · rintro ⟨text, ⟨htext, -⟩, ha⟩
    exact ⟨text, htext, ha⟩
  · rintro ⟨text, rfl, ha⟩
    refine ⟨text, ⟨rfl, ?_⟩, ha⟩
    rintro rfl
    rw [show Text.trim "" = "" from rfl, hempty] at ha
    cases ha

end

/-! ### Configurations -/

section

variable {b : Binding} {dns : List IpAddress} {c : InterfaceConfig}

theorem ofText?_empty : IPv4.ofText? "" = none := by
  decide

/-- A netmask must be contiguous as well. -/
theorem readNetmask_eq_ok_iff {mask : IPv4} :
    b.readNetmask = .ok mask ↔
      ReadsAs IPv4.ofText? b.spec.netmask mask ∧ mask.isContiguousMask = true := by
  rw [readNetmask, ← exists_require_iff b .netmask ofText?_empty]
  simp only [bind_eq_ok_iff, read_eq_ok_iff]
  constructor
  · rintro ⟨text, htext, m, hm, hmask⟩
    split at hmask
    · rename_i hcontiguous
      obtain rfl : m = mask := Except.ok.inj hmask
      exact ⟨⟨text, htext, hm⟩, hcontiguous⟩
    · cases hmask
  · rintro ⟨⟨text, htext, hm⟩, hcontiguous⟩
    exact ⟨text, htext, mask, hm, if_pos hcontiguous⟩

/-- A static configuration needs an address and a netmask. A gateway must be readable if it is
there, also where it is not used. -/
theorem staticConfig_eq_ok_iff {holdsGateway : Bool} :
    b.staticConfig holdsGateway dns = .ok c ↔ ∃ address netmask gateway,
      ReadsAs IPv4.ofText? b.spec.ip address ∧
      (ReadsAs IPv4.ofText? b.spec.netmask netmask ∧ netmask.isContiguousMask = true) ∧
      ReadsAsOptional IPv4.ofText? b.spec.gateway gateway ∧
      c = ⟨b.network, b.device, .static ⟨address, netmask, address.broadcast netmask⟩,
        if holdsGateway then gateway else none, dns⟩ := by
  rw [staticConfig]
  simp only [bind_eq_ok_iff, read_eq_ok_iff, readNetmask_eq_ok_iff, readOptional_eq_ok_iff,
    ← exists_require_iff b .ip ofText?_empty]
  constructor
  · rintro ⟨text, htext, address, ha, netmask, hn, gateway, hg, hc⟩
    exact ⟨address, netmask, gateway, ⟨text, htext, ha⟩, hn, hg, (Except.ok.inj hc).symm⟩
  · rintro ⟨address, netmask, gateway, ⟨text, htext, ha⟩, hn, hg, rfl⟩
    exact ⟨text, htext, address, ha, netmask, hn, gateway, hg, rfl⟩

/-- A configuration by DHCP needs nothing, but an address that was detected must be readable. -/
theorem dhcpConfig_eq_ok_iff :
    b.dhcpConfig = .ok c ↔ ∃ detected, ReadsAsOptional IPv4.ofText? b.spec.ip detected ∧
      c = ⟨b.network, b.device, .dhcp detected, none, []⟩ := by
  rw [dhcpConfig, bind_eq_ok_iff]
  simp only [readOptional_eq_ok_iff]
  constructor
  · rintro ⟨detected, hd, hc⟩
    exact ⟨detected, hd, (Except.ok.inj hc).symm⟩
  · rintro ⟨detected, hd, rfl⟩
    exact ⟨detected, hd, rfl⟩

end

/-- A binding has a configuration exactly if its literals can be read, whoever holds the gateway and
whatever the nameservers are. -/
theorem exists_config_eq_ok_iff (b : Binding) (holder : Option String) (dns : List IpAddress) :
    (∃ c, b.config holder dns = .ok c) ↔ b.spec.Readable := by
  unfold config
  split
  · rename_i hdynamic
    simp only [dhcpConfig_eq_ok_iff]
    constructor
    · rintro ⟨c, detected, hd, -⟩
      exact .dynamic hdynamic (exists_readsAsOptional_iff.1 ⟨detected, hd⟩)
    · rintro (⟨hstatic, -⟩ | ⟨-, hip⟩)
      · rw [hdynamic] at hstatic
        cases hstatic
      · obtain ⟨detected, hd⟩ := exists_readsAsOptional_iff.2 hip
        exact ⟨_, detected, hd, rfl⟩
  · rename_i hstatic
    rw [Bool.not_eq_true] at hstatic
    simp only [staticConfig_eq_ok_iff, IPv4.isContiguousMask_iff]
    constructor
    · rintro ⟨c, address, netmask, gateway, ha, hn, hg, -⟩
      exact .static hstatic ⟨address, ha⟩ ⟨netmask, hn⟩ (exists_readsAsOptional_iff.1 ⟨gateway, hg⟩)
    · rintro (⟨-, ⟨address, ha⟩, ⟨netmask, hn⟩, hgateway⟩ | ⟨hdynamic, -⟩)
      · obtain ⟨gateway, hg⟩ := exists_readsAsOptional_iff.2 hgateway
        exact ⟨_, address, netmask, gateway, ha, hn, hg, rfl⟩
      · rw [hstatic] at hdynamic
        cases hdynamic

/-- A configuration is for the interface of its binding. -/
theorem device_eq_of_config_eq_ok {b : Binding} {holder : Option String} {dns : List IpAddress}
    {c : InterfaceConfig} (hc : b.config holder dns = .ok c) : c.device = b.device := by
  unfold config at hc
  split at hc
  · obtain ⟨detected, -, rfl⟩ := dhcpConfig_eq_ok_iff.1 hc
    rfl
  · obtain ⟨address, netmask, gateway, -, -, -, rfl⟩ := staticConfig_eq_ok_iff.1 hc
    rfl

end Binding

end NetReconcile
