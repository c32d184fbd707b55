import NetReconcile.Binding
import NetReconcile.Materialize
import NetReconcile.Nameservers

/-!
# Setting up the network of a host

Setting up goes through stages: detect the hardware, bind the declared networks and derive their
configurations, write the files, restart the network service if a file was written, check that the
host has come to hold what was configured, and announce the addresses. An error in a stage ends the
setup before the next one. A failing restart is reported and is no error: what counts is what the
checks find after it.

Announcements are made after the setup itself has succeeded, and their outcome does not change its
result. It is delivered to whoever waits for it.

## Main definitions

* `NetworkManager.reconcile`: all stages before the announcements.
* `NetworkManager.setup`: setting up, with the announcements.
* `NetworkManager.configured`: the physical interfaces that have a configuration file.
-/

namespace NetReconcile

/-- How the network of a host is set up. -/
structure NetworkManager where
  paths : ConfigPaths := {}
  restartCommand : List String := ["service", "network", "restart"]
  deriving DecidableEq, Repr

/-- Who waits for the outcome of the announcements. -/
inductive Completion
  /-- Somebody waits for it. -/
  | awaited
  /-- Nobody asked for it. -/
  | unrequested
  /-- Somebody asked for it and is gone. -/
  | abandoned
  deriving DecidableEq, Repr

/-- What came of setting up a network. -/
structure SetupOutcome where
  result : Except NetworkError Unit
  /-- The outcome of the announcements, if it was delivered to somebody. -/
  delivered : Option (Except NetworkError Unit)

/-! ### Checks -/

/-- The static interfaces with the addresses that they are to hold. -/
def InterfaceConfigs.staticAddresses (cs : InterfaceConfigs) : List (String × IPv4) :=
  cs.configs.filterMap fun c ↦ c.staticAddress?.map fun a ↦ (c.device, a.address)

/-- The static interfaces are those whose protocol says so, each with the address it says. -/
theorem InterfaceConfigs.mem_staticAddresses_iff {cs : InterfaceConfigs} {device : String}
    {ip : IPv4} :
    (device, ip) ∈ cs.staticAddresses ↔
      ∃ c ∈ cs.configs, ∃ a, c.protocol = .static a ∧ c.device = device ∧ a.address = ip := by
  simp only [staticAddresses, List.mem_filterMap, Option.map_eq_some_iff,
    InterfaceConfig.staticAddress?_eq_some_iff, Prod.mk.injEq]

/-- The expected addresses that an address table does not have. -/
def missingAddresses (expected : List (String × IPv4)) (table : List HostAddress) :
    List (String × IPv4) :=
  expected.filter fun (device, ip) ↦ ⟨device, .v4 ip⟩ ∉ table

/-- What to announce for a set of configurations: static addresses, and those that the settings
already carry for dynamic networks, are known; others are looked up when they are announced. -/
def InterfaceConfigs.announcements (cs : InterfaceConfigs) : List AddressBinding :=
  cs.configs.map fun c ↦
    match c.protocol with
    | .static a => ⟨c.device, .known a.address⟩
    | .dhcp (some ip) => ⟨c.device, .known ip⟩
    | .dhcp none => ⟨c.device, .deferred⟩

/-- Reports events in order. -/
def reportAll {σ : Type} [Station σ] (events : List Event) (s : σ) : σ :=
  events.foldl (fun s e ↦ Station.report e s) s

section

variable {σ : Type} [Host σ]

/-- Reads the inventory of a host, reporting hardware addresses that occur twice. -/
def detectHardware : HostM σ MacTable := do
  let (table, events) := detect (← Host.interfaces)
  modify (reportAll events)
  return table

/-- Checks that the host holds the addresses that were configured. The address table is not read if
there are none. -/
def checkAddresses (cs : InterfaceConfigs) : HostM σ Unit := do
  if cs.staticAddresses.isEmpty then return
  let table ← within .readAddressTable Host.addresses
  match missingAddresses cs.staticAddresses table with
  | [] => return
  | missing => throw (.missingAddresses missing)

/-- Checks that the resolver file that the host uses names the expected nameservers. It is not read
if none are expected. -/
def checkNameservers (resolvConf : FilePath) (expected : List IpAddress) : HostM σ Unit := do
  if expected.isEmpty then return
  match ← within (.readFile resolvConf) (FileStore.read resolvConf) with
  | none => throw (.missingFile resolvConf)
  | some contents =>
    match missingNameservers expected contents with
    | [] => return
    | missing => throw (.missingNameservers missing resolvConf)

/-- An operation as a stage of setting up, whose errors are wrapped. -/
def stage {α : Type} (wrap : HostError → NetworkError) (op : HostM σ α) :
    EStateM NetworkError σ α :=
  EStateM.adaptExcept wrap op

/-- Binds networks to interfaces, reporting those that are skipped. -/
def bindNetworks (networks : Networks) (table : MacTable) :
    EStateM NetworkError σ (List Binding) := fun s ↦
  match resolveBindings networks table [] with
  | .ok bindings events => .ok bindings (reportAll events s)
  | .error e events => .error (.derivation e) (reportAll events s)

/-- Derives the configurations of bindings. -/
def derive (bindings : List Binding) : EStateM NetworkError σ InterfaceConfigs :=
  match deriveConfigs bindings with
  | .ok configs => pure configs
  | .error e => throw (.derivation e)

/-- Detects the hardware of a host, and derives the configurations of networks on it. -/
def configsFor (networks : Networks) : EStateM NetworkError σ InterfaceConfigs := do
  let table ← stage .discovery detectHardware
  derive (← bindNetworks networks table)

namespace NetworkManager

/-- Restarts the network service. A failure is reported. -/
def restart (m : NetworkManager) (s : σ) : σ :=
  match Station.run m.restartCommand (Station.report (.restarting m.restartCommand) s) with
  | .ok _ s => s
  | .error e s => Station.report (.restartFailed e) s

/-- Writes configurations, and restarts the network service if a file was written. -/
def install (m : NetworkManager) (cs : InterfaceConfigs) : EStateM NetworkError σ Unit := do
  let changed ← stage .persistence (m.paths.write cs)
  modify (if changed then m.restart else Station.report .unchanged)

/-- Checks what the host has come to hold against its configurations. -/
def check (m : NetworkManager) (cs : InterfaceConfigs) : EStateM NetworkError σ Unit := do
  stage (.validation .staticNetwork) (checkAddresses cs)
  stage (.validation .dns) (checkNameservers m.paths.resolvConf cs.dns)

/-- Detects, derives, writes, restarts and checks. The answer is what to announce. -/
def reconcile (m : NetworkManager) (networks : Networks) :
    EStateM NetworkError σ (List AddressBinding) := do
  let configs ← configsFor networks
  m.install configs
  m.check configs
  return configs.announcements

/-- Makes the announcements of a setup that has succeeded. -/
def announceAfter (bindings : List AddressBinding) (completion : Completion) (s : σ) :
    Option (Except NetworkError Unit) × σ :=
  let (outcome, s) : Except NetworkError Unit × σ :=
    match stage .broadcast (Host.broadcast bindings) s with
    | .ok _ s => (.ok (), s)
    | .error e s => (.error e, s)
  match completion, outcome with
  | .awaited, outcome => (some outcome, s)
  | .abandoned, _ => (none, Station.report .outcomeUnclaimed s)
  | .unrequested, .ok _ => (none, s)
  | .unrequested, .error e => (none, Station.report (.broadcastFailed e) s)

/-- Sets up the declared networks, and announces their addresses if that succeeds. -/
def setup (m : NetworkManager) (networks : Networks) (completion : Completion) (s : σ) :
    SetupOutcome × σ :=
  match m.reconcile networks s with
  | .error e s => (⟨.error e, none⟩, s)
  | .ok bindings s =>
    let (delivered, s) := announceAfter bindings completion s
    (⟨.ok (), delivered⟩, s)

/-! ### Configured interfaces -/

/-- The interfaces among the given ones that are physical and have a configuration file. -/
def withFile (m : NetworkManager) : List Interface → σ → List String × σ
  | [], s => ([], s)
  | i :: is, s =>
    if i.isPhysical then
      let (found, s) := FileStore.isPresent (m.paths.ifcfg i.name) s
      let (names, s) := m.withFile is s
      (if found then i.name :: names else names, s)
    else m.withFile is s

/-- The physical interfaces that have a configuration file, in the order of their names. -/
def configured (m : NetworkManager) : EStateM NetworkError σ (List String) := do
  let interfaces ← stage .discovery Host.interfaces
  let names ← modifyGet (m.withFile interfaces)
  return names.mergeSort

end NetworkManager

end

end NetReconcile
