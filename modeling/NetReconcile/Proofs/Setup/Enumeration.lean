import NetReconcile.Proofs.Announce.InMemory
import NetReconcile.Proofs.Announce.Indifference
import NetReconcile.Proofs.Binding.Reordering
import NetReconcile.Proofs.Setup.Configured
import NetReconcile.Proofs.Setup.Indifference

/-!
# The order in which hardware is enumerated

A host may list its interfaces in any order, and the table that is made of them can be gone through
in any order. Neither has a part in what a setup does. The order of the table never has one, because
an address is entered once. The order of the inventory has one only where two physical interfaces
have the same address, since then the first of them is entered.

## Main definitions

* `setupIn`: a setup that goes through the table of hardware addresses in an order of its own.
* `MemoryHost.SameButInventory`: two hosts differ at most in their inventories.
* `Interchangeable`: two inventories come to the same in all that is done with an inventory.

## Main statements

* `setupIn_eq`: the order of the table has no part in a setup, on any kind of host.
* `interchangeable_of_perm`: the order of an inventory has no part in anything.
-/

namespace NetReconcile

/-! ### The order of the table -/

section

variable {σ : Type} [Host σ] {order : MacTable → MacTable}

/-- Detects and derives, going through the table of hardware addresses in some order. -/
def configsForIn (order : MacTable → MacTable) (networks : Networks) :
    EStateM NetworkError σ InterfaceConfigs := do
  let table ← stage .discovery detectHardware
  derive (← bindNetworks networks (order table))

namespace NetworkManager

/-- Reconciles, going through the table of hardware addresses in some order. -/
def reconcileIn (order : MacTable → MacTable) (m : NetworkManager) (networks : Networks) :
    EStateM NetworkError σ (List AddressBinding) := do
  let configs ← configsForIn order networks
  m.install configs
  m.check configs
  return configs.announcements

/-- Sets up, going through the table of hardware addresses in some order. -/
def setupIn (order : MacTable → MacTable) (m : NetworkManager) (networks : Networks)
    (completion : Completion) (s : σ) : SetupOutcome × σ :=
  match m.reconcileIn order networks s with
  | .error e s => (⟨.error e, none⟩, s)
  | .ok bindings s =>
    let (delivered, s) := announceAfter bindings completion s
    (⟨.ok (), delivered⟩, s)

end NetworkManager

/-- On any kind of host no address is entered twice. -/
theorem nodup_keys_of_detectHardware {table : MacTable} {s s' : σ}
    (h : detectHardware s = .ok table s') : (table.map (·.1)).Nodup := by
  cases hi : (Host.interfaces : HostM σ (List Interface)) s with
  | error e t =>
    rw [detectHardware, bind_of_error hi] at h
    cases h
  | ok interfaces t =>
    rw [detectHardware, bind_of_ok hi] at h
    cases h
    exact nodup_keys_detect interfaces

/-- Networks are bound alike in whatever order a table is gone through. -/
theorem bindNetworks_perm (networks : Networks) {table table' : MacTable}
    (hperm : table.Perm table') (hn : (table.map (·.1)).Nodup) :
    (bindNetworks networks table : EStateM NetworkError σ (List Binding)) =
      bindNetworks networks table' := by
  funext s
  rw [bindNetworks, bindNetworks, resolveBindings_perm hperm hn]

/-- The order in which a table is gone through has no part in what is derived. -/
theorem configsForIn_eq (horder : ∀ table, (order table).Perm table) (networks : Networks) :
    (configsForIn order networks : EStateM NetworkError σ InterfaceConfigs) =
      configsFor networks := by
  funext s
  cases hd : (detectHardware : HostM σ MacTable) s with
  | error e s' =>
    rw [configsForIn, configsFor, bind_of_error (stage_of_error hd),
      bind_of_error (stage_of_error hd)]
  | ok table s' =>
    rw [configsForIn, configsFor, bind_of_ok (stage_of_ok hd), bind_of_ok (stage_of_ok hd),
      bindNetworks_perm networks (horder table).symm (nodup_keys_of_detectHardware hd)]

/-- The order in which the table of hardware addresses is gone through has no part in a setup. -/
theorem setupIn_eq (horder : ∀ table, (order table).Perm table) (m : NetworkManager)
    (networks : Networks) (completion : Completion) (s : σ) :
    m.setupIn order networks completion s = m.setup networks completion s := by
  rw [NetworkManager.setupIn, NetworkManager.reconcileIn, configsForIn_eq horder]
  rfl

end

/-! ### Hosts with different inventories -/

namespace MemoryHost

/-- Two hosts differ at most in their inventories. -/
def SameButInventory (h k : MemoryHost) : Prop :=
  ∃ interfaces, k = { h with interfaces := interfaces }

/-- Announcements do not ask for an inventory. -/
theorem indifferentAnnouncing_sameButInventory : IndifferentAnnouncing SameButInventory where
  isPresent path h _ := by
    rintro ⟨interfaces, rfl⟩
    rw [isPresent_eq, isPresent_eq]
    dsimp only
    split <;> exact .intro _ ⟨interfaces, rfl⟩
  primaryIPv4 interface h _ := by
    rintro ⟨interfaces, rfl⟩
    have haddress : ({ h with interfaces := interfaces } : MemoryHost).addressOf? interface =
        h.addressOf? interface := rfl
    rw [primaryIPv4_eq, primaryIPv4_eq, haddress]
    split
    · exact .ok _ ⟨interfaces, rfl⟩
    · exact .error _ ⟨interfaces, rfl⟩
  run command h _ := by
    rintro ⟨interfaces, rfl⟩
    rw [run_eq, run_eq]
    dsimp only
    split
    · exact .error _ ⟨interfaces, rfl⟩
    · exact .ok _ ⟨interfaces, rfl⟩
  pause _ _ _ := by
    rintro ⟨interfaces, rfl⟩
    exact ⟨interfaces, rfl⟩
  report _ _ _ := by
    rintro ⟨interfaces, rfl⟩
    exact ⟨interfaces, rfl⟩

/-- Neither do the stages that come after deriving configurations. -/
theorem indifferentInstalling_sameButInventory : IndifferentInstalling SameButInventory where
  addresses := respects_of_fault addresses_eq fun h _ ↦ by
    rintro ⟨interfaces, rfl⟩
    exact ⟨rfl, rfl, interfaces, rfl⟩
  read path := respects_of_fault (read_eq path) fun h _ ↦ by
    rintro ⟨interfaces, rfl⟩
    exact ⟨rfl, rfl, interfaces, rfl⟩
  write path contents := respects_of_fault (write_eq path contents) fun h _ ↦ by
    rintro ⟨interfaces, rfl⟩
    exact ⟨rfl, rfl, interfaces, rfl⟩
  link target path := respects_of_fault (link_eq target path) fun h _ ↦ by
    rintro ⟨interfaces, rfl⟩
    exact ⟨rfl, rfl, interfaces, rfl⟩
  report := indifferentAnnouncing_sameButInventory.report
  restart m _ _ hs := indifferentAnnouncing_sameButInventory.restart m hs

/-- Announcements are made alike on hosts with different inventories. -/
theorem respects_broadcast_sameButInventory (bindings : List AddressBinding) :
    Respects SameButInventory (Host.broadcast bindings : HostM MemoryHost Unit) := by
  refine respects_broadcast_of_indifferent indifferentAnnouncing_sameButInventory ?_ ?_ bindings
  · rintro h _ ⟨interfaces, rfl⟩
    exact ⟨rfl, rfl, rfl⟩
  · rintro e h _ ⟨interfaces, rfl⟩
    exact ⟨interfaces, rfl⟩

end MemoryHost

open MemoryHost

/-! ### The order of the inventory -/

/-- Two inventories come to the same in all that is done with an inventory. -/
structure Interchangeable (interfaces interfaces' : List Interface) : Prop where
  /-- The same addresses are detected, each once, with the same interfaces. -/
  tables : (detect interfaces).1.Perm (detect interfaces').1 ∧
    ((detect interfaces).1.map (·.1)).Nodup ∧
    (detect interfaces).1.device? = (detect interfaces').1.device?
  /-- Nothing is reported. -/
  reports : (detect interfaces).2 = [] ∧ (detect interfaces').2 = []
  /-- Networks are bound alike, in whatever order the tables are gone through. -/
  bindings : ∀ table table', table.Perm (detect interfaces).1 →
    table'.Perm (detect interfaces').1 →
      ∀ networks, resolveBindings networks table = resolveBindings networks table'
  /-- Setups have the same outcome and leave the same, in whatever order a table is gone
  through. -/
  setup : ∀ order : MacTable → MacTable, (∀ table, (order table).Perm table) →
    ∀ (m : NetworkManager) (networks : Networks) (completion : Completion) (h : MemoryHost),
      SameAnswer SameButInventory
        (m.setup networks completion { h with interfaces := interfaces })
        (m.setupIn order networks completion { h with interfaces := interfaces' })
  /-- The same interfaces are configured, unless a file appears between two looks for it. -/
  configured : ∀ (m : NetworkManager) (h : MemoryHost), m.LooksApart interfaces h →
    Alike SameView (m.configured { h with interfaces := interfaces })
      (m.configured { h with interfaces := interfaces' })

section

variable {interfaces interfaces' : List Interface}

/-- Where addresses are different, interfaces in another order come to the same table in another
order. -/
theorem detect_perm (hperm : interfaces.Perm interfaces')
    (hn : (interfaces.filterMap Interface.physicalMac?).Nodup) :
    (detect interfaces).1.Perm (detect interfaces').1 := by
  have hn' := (hperm.filterMap Interface.physicalMac?).nodup_iff.1 hn
  rw [detect_eq_of_nodup hn, detect_eq_of_nodup hn']
  exact hperm.filterMap Interface.entry?

/-- The same is derived from an inventory in any order. -/
theorem alike_configsFor_perm {h k : MemoryHost} (hs : SameButInventory h k)
    (hperm : h.interfaces.Perm k.interfaces)
    (hn : (h.interfaces.filterMap Interface.physicalMac?).Nodup) (networks : Networks) :
    Alike SameButInventory (configsFor networks h) (configsFor networks k) := by
  have hn' := (hperm.filterMap Interface.physicalMac?).nodup_iff.1 hn
  have hfault : k.faults.inventory = h.faults.inventory := by
    obtain ⟨interfaces, rfl⟩ := hs
    rfl
  cases hf : h.faults.inventory with
  | some message =>
    rw [configsFor_of_fault networks hf, configsFor_of_fault networks (hfault.trans hf)]
    exact .error _ hs
  | none =>
    have hd : stage .discovery detectHardware h = .ok (detect h.interfaces).1 _ :=
      stage_of_ok (detectHardware_eq hf)
    have hd' : stage .discovery detectHardware k = .ok (detect k.interfaces).1 _ :=
      stage_of_ok (detectHardware_eq (hfault.trans hf))
    rw [configsFor, bind_of_ok hd, bind_of_ok hd',
      bindNetworks_perm networks (detect_perm hperm hn) (nodup_keys_detect h.interfaces),
      detect_eq_of_nodup hn, detect_eq_of_nodup hn']
    have hbind := indifferentInstalling_sameButInventory.bindNetworks networks
      (k.interfaces.filterMap Interface.entry?)
    refine (hbind _ _ ?_).bind respects_derive
    obtain ⟨interfaces, rfl⟩ := hs
    exact ⟨interfaces, rfl⟩

/-- Inventories that list the same interfaces in different orders are interchangeable, if no two
physical interfaces have the same address. -/
theorem interchangeable_of_perm (hperm : interfaces.Perm interfaces')
    (hn : (interfaces.filterMap Interface.physicalMac?).Nodup) :
    Interchangeable interfaces interfaces' where
  tables := by
    have hdetect := detect_perm hperm hn
    have hkeys := nodup_keys_detect interfaces
    exact ⟨hdetect, hkeys, MacTable.device?_perm hdetect hkeys⟩
  reports := by
    have hn' := (hperm.filterMap Interface.physicalMac?).nodup_iff.1 hn
    rw [detect_eq_of_nodup hn, detect_eq_of_nodup hn']
    exact ⟨rfl, rfl⟩
  bindings table table' htable htable' networks := by
    have hkeys := (htable.map (·.1)).nodup_iff.2 (nodup_keys_detect interfaces)
    exact resolveBindings_perm (htable.trans ((detect_perm hperm hn).trans htable'.symm)) hkeys
      networks
  setup order horder m networks completion h := by
    rw [setupIn_eq horder]
    have hsame : SameButInventory { h with interfaces := interfaces }
        { h with interfaces := interfaces' } := ⟨interfaces', rfl⟩
    have hreconcile := indifferentInstalling_sameButInventory.alike_reconcile m
      (alike_configsFor_perm hsame hperm hn networks)
    exact indifferentInstalling_sameButInventory.sameAnswer_setup
      respects_broadcast_sameButInventory m completion hreconcile
  configured m h ha := m.alike_configured_perm hperm ha

end

/-- The interfaces of a host with two network cards, a bridge that has taken over the address of one
of them, and an interface without an address. -/
def bridged : List Interface :=
  [⟨"eth0", some "aa", true⟩, ⟨"br0", some "bb", false⟩, ⟨"eth1", some "bb", true⟩,
    ⟨"eth2", none, true⟩]

/-- The configured interfaces among them are the same on every host, since no name has a slash. -/
theorem interchangeable_bridged :
    bridged.Perm bridged.reverse ∧ (bridged.filterMap Interface.physicalMac?).Nodup ∧
      Interchangeable bridged bridged.reverse ∧
      ∀ (m : NetworkManager) (h : MemoryHost),
        Alike SameView (m.configured { h with interfaces := bridged })
          (m.configured { h with interfaces := bridged.reverse }) := by
  have hperm : bridged.Perm bridged.reverse := by decide
  have hn : (bridged.filterMap Interface.physicalMac?).Nodup := by decide
  have hslash : ∀ i ∈ bridged, '/' ∉ i.name.toList := by decide
  have hinter := interchangeable_of_perm hperm hn
  exact ⟨hperm, hn, hinter, fun m h ↦ hinter.configured m h (.of_slash_notMem m h hslash)⟩

end NetReconcile
