import NetReconcile.Address.Basic
import NetReconcile.Derivation.Error

/-!
# Deriving interface configurations

A binding pairs a network with the interface that it configures. From a list of bindings this module
derives one configuration per binding, and the nameservers of the host.

At most one network holds each default role. The holder of the dns role lends its nameservers to
every static interface. A gateway is configured only on the interface of the holder of the gateway
role; a network that is alone, is not dynamic and claims nothing at all holds it without claiming.

Static configurations come first, then dynamic ones, each group in the order of network names.
Literals are read up to blanks at their ends, and only where they are needed: the netmask and the
gateway of a dynamic network and the nameservers of a network without the dns role are never read.
-/

namespace NetReconcile

/-- A network together with the interface that it configures. -/
structure Binding where
  network : String
  spec : NetworkSpec
  device : String
  deriving DecidableEq, Repr

/-- The address of a static interface, with its subnet. -/
structure StaticAddress where
  address : IPv4
  netmask : IPv4
  broadcast : IPv4
  deriving DecidableEq

/-- How an interface gets its address when it is brought up. -/
inductive BootProtocol
  | static (address : StaticAddress)
  /-- By DHCP. The settings may already carry the address that was assigned. -/
  | dhcp (detected : Option IPv4)
  deriving DecidableEq

/-- The configuration of one interface. -/
structure InterfaceConfig where
  network : String
  device : String
  protocol : BootProtocol
  gateway : Option IPv4
  dns : List IpAddress
  deriving DecidableEq

namespace InterfaceConfig

/-- Whether the interface gets its address by DHCP. -/
def isDhcp (c : InterfaceConfig) : Bool :=
  match c.protocol with
  | .static _ => false
  | .dhcp _ => true

/-- The address of a static interface. -/
def staticAddress? (c : InterfaceConfig) : Option StaticAddress :=
  match c.protocol with
  | .static a => some a
  | .dhcp _ => none

theorem isDhcp_iff {c : InterfaceConfig} :
    c.isDhcp = true ↔ ∃ detected, c.protocol = .dhcp detected := by
  unfold isDhcp
  cases c.protocol with
  | static a => simp
  | dhcp detected => simp

theorem staticAddress?_eq_some_iff {c : InterfaceConfig} {a : StaticAddress} :
    c.staticAddress? = some a ↔ c.protocol = .static a := by
  unfold staticAddress?
  cases c.protocol with
  | static b => simp
  | dhcp detected => simp

end InterfaceConfig

/-- The configurations of all bound interfaces, and the nameservers of the host. -/
structure InterfaceConfigs where
  configs : List InterfaceConfig
  dns : List IpAddress
  deriving DecidableEq

namespace InterfaceConfigs

/-- The configurations with a static address. -/
def statics (cs : InterfaceConfigs) : List InterfaceConfig :=
  cs.configs.filter (!·.isDhcp)

/-- The configurations by DHCP. -/
def dhcps (cs : InterfaceConfigs) : List InterfaceConfig :=
  cs.configs.filter (·.isDhcp)

/-- Whether any interface is configured by DHCP. -/
def hasDhcp (cs : InterfaceConfigs) : Bool :=
  cs.configs.any (·.isDhcp)

/-- The configurations by DHCP are those whose protocol says so. -/
theorem mem_dhcps_iff {cs : InterfaceConfigs} {c : InterfaceConfig} :
    c ∈ cs.dhcps ↔ c ∈ cs.configs ∧ ∃ detected, c.protocol = .dhcp detected := by
  rw [dhcps, List.mem_filter, InterfaceConfig.isDhcp_iff]

end InterfaceConfigs

/-! ### Default roles -/

/-- The error of two networks that claim one role, whatever the order in which they come. -/
def DerivationError.conflict (role : DefaultRole) (a b : String) : DerivationError :=
  if a ≤ b then .conflictingDefault role a b else .conflictingDefault role b a

/-- The network that holds a role: the only one that claims it. -/
def roleHolder (role : DefaultRole) (bindings : List Binding) :
    Except DerivationError (Option String) :=
  match bindings.filter (·.spec.claims role) with
  | [] => .ok none
  | [b] => .ok (some b.network)
  | a :: b :: _ => .error (.conflict role a.network b.network)

/-- The network whose gateway is kept although nothing claims the gateway role: a lone network that
is not dynamic and claims no role. -/
def soleNetwork? (bindings : List Binding) : Option String :=
  match bindings with
  | [b] => if !b.spec.isDynamic && b.spec.default.isEmpty then some b.network else none
  | _ => none

/-! ### Literals -/

/-- The error of a literal that cannot be read. -/
def Binding.invalid (b : Binding) (literal : Literal) (value : String) : DerivationError :=
  .invalidLiteral b.network literal value

/-- Reads a literal of a network, up to blanks at its ends. -/
def Binding.read {α : Type} (b : Binding) (parse : String → Option α) (literal : Literal)
    (value : String) : Except DerivationError α :=
  match parse (Text.trim value) with
  | some a => .ok a
  | none => .error (b.invalid literal value)

/-- Reads a literal that need not be there. -/
def Binding.readOptional {α : Type} (b : Binding) (parse : String → Option α) (literal : Literal)
    (value : Option String) : Except DerivationError (Option α) :=
  match value with
  | none => .ok none
  | some v => (b.read parse literal v).map some

/-- A literal that has to be there. An empty one is missing; a blank one is there. -/
def Binding.require (b : Binding) (literal : Literal) (value : Option String) :
    Except DerivationError String :=
  match value.filter (· ≠ "") with
  | some v => .ok v
  | none => .error (.missingLiteral b.network literal)

/-! ### Configurations -/

/-- The netmask of a static network, which has to be ones followed by zeros. -/
def Binding.readNetmask (b : Binding) : Except DerivationError IPv4 := do
  let value ← b.require .netmask b.spec.netmask
  let mask ← b.read IPv4.ofText? .netmask value
  if mask.isContiguousMask then return mask else throw (b.invalid .netmask value)

/-- The configuration of a network with a static address. The gateway literal is read even where
another network holds the role. -/
def Binding.staticConfig (b : Binding) (holdsGateway : Bool) (dns : List IpAddress) :
    Except DerivationError InterfaceConfig := do
  let address ← b.read IPv4.ofText? .ip (← b.require .ip b.spec.ip)
  let netmask ← b.readNetmask
  let gateway ← b.readOptional IPv4.ofText? .gateway b.spec.gateway
  return {
    network := b.network
    device := b.device
    protocol := .static ⟨address, netmask, address.broadcast netmask⟩
    gateway := if holdsGateway then gateway else none
    dns := dns }

/-- The configuration of a network whose address comes by DHCP. -/
def Binding.dhcpConfig (b : Binding) : Except DerivationError InterfaceConfig := do
  let detected ← b.readOptional IPv4.ofText? .ip b.spec.ip
  return {
    network := b.network
    device := b.device
    protocol := .dhcp detected
    gateway := none
    dns := [] }

/-- The configuration of one binding. -/
def Binding.config (b : Binding) (gatewayHolder : Option String) (dns : List IpAddress) :
    Except DerivationError InterfaceConfig :=
  if b.spec.isDynamic then b.dhcpConfig else b.staticConfig (gatewayHolder = some b.network) dns

/-- The order of configurations: static before dynamic, then by network name. -/
def Binding.before (a b : Binding) : Bool :=
  match a.spec.isDynamic, b.spec.isDynamic with
  | false, true => true
  | true, false => false
  | _, _ => a.network ≤ b.network

/-- The nameservers of the host, which are those of the holder of the dns role. -/
def hostNameservers (bindings : List Binding) (holder : Option String) :
    Except DerivationError (List IpAddress) :=
  match holder.bind fun n ↦ bindings.find? (·.network = n) with
  | none => .ok []
  | some b => b.spec.dns.mapM (b.read IpAddress.ofText? .dnsServer)

/-- Derives the configurations of all bindings. Conflicts are found first, then malformed
nameservers, then the faults of single networks in the order of their configurations. -/
def deriveConfigs (bindings : List Binding) : Except DerivationError InterfaceConfigs := do
  let dnsHolder ← roleHolder .dns bindings
  let gatewayHolder := (← roleHolder .gateway bindings).or (soleNetwork? bindings)
  let dns ← hostNameservers bindings dnsHolder
  let configs ← (bindings.mergeSort Binding.before).mapM (·.config gatewayHolder dns)
  return ⟨configs, dns⟩

end NetReconcile
