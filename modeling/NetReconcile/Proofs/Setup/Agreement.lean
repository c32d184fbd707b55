import NetReconcile.Proofs.Setup.Indifference
import NetReconcile.Proofs.Setup.Stages

/-!
# What the result of a setup hangs on

Two hosts in memory agree if they have the same files, links, interfaces and addresses, and the same
arranged failures except for those of commands and announcements. Every stage before the
announcements comes to the same on hosts that agree, and leaves hosts that agree. So neither the
outcome of a restart, nor what was done to a host before, has a part in the result of a setup.

## Main definitions

* `MemoryHost.Agree`: two hosts differ only in what no result hangs on.

## Main statements

* `MemoryHost.indifferent_agree`: the operations cannot tell hosts apart that agree.
* `NetworkManager.respects_reconcile`: all stages before the announcements respect agreement.
* `NetworkManager.result_setup_congr`: hosts that agree are set up with the same result.

Agreement leaves out the arranged failures of commands, and that is what makes the outcome of a
restart irrelevant: `Agree.restart` holds although one restart may fail where the other one does
not. All other operations have to be arranged for alike, since their failures end a setup.
-/

namespace NetReconcile

namespace MemoryHost

/-- Two hosts differ at most in what no result of a setup hangs on. -/
structure Agree (h k : MemoryHost) : Prop where
  files_eq : k.files = h.files
  links_eq : k.links = h.links
  interfaces_eq : k.interfaces = h.interfaces
  addresses_eq : k.addresses = h.addresses
  faults_eq : k.faults =
    { h.faults with commands := k.faults.commands, broadcast := k.faults.broadcast }

namespace Agree

variable {h k : MemoryHost}

theorem readsOf_eq (ha : Agree h k) : k.faults.readsOf = h.faults.readsOf := by
  rw [ha.faults_eq]

/-- Asking for announcements and making them leaves a host that agrees. -/
theorem of_announced {bindings : List AddressBinding} {sent : List (List String)}
    (ha : Announced bindings sent (record (.broadcast bindings) h) k) : Agree h k := by
  rw [ha.host_eq]
  exact ⟨rfl, rfl, rfl, rfl, rfl⟩

/-- What a path leads to is the same, because files and links are. -/
theorem textAt?_eq (ha : Agree h k) (path : FilePath) : k.textAt? path = h.textAt? path := by
  rw [textAt?, textAt?, ha.files_eq, ha.links_eq]

end Agree

/-! ### Operations -/

theorem respects_interfaces :
    Respects Agree (Host.interfaces : HostM MemoryHost (List Interface)) :=
  respects_of_fault interfaces_eq fun _ _ ha ↦ ⟨by rw [ha.faults_eq], ha.interfaces_eq, ha⟩

theorem respects_read (path : FilePath) :
    Respects Agree (FileStore.read path : HostM MemoryHost (Option String)) :=
  respects_of_fault (read_eq path) fun _ _ ha ↦ ⟨by rw [ha.readsOf_eq], ha.textAt?_eq path, ha⟩

/-- The same write on both leaves hosts that agree. -/
theorem Agree.stored {h k : MemoryHost} (ha : Agree h k) (path : FilePath) (contents : String) :
    Agree (h.stored path contents) (k.stored path contents) := by
  have hd : k.faults.discards = h.faults.discards := by rw [ha.faults_eq]
  refine ⟨?_, ha.links_eq, ha.interfaces_eq, ha.addresses_eq, ha.faults_eq⟩
  show (if k.faults.discards.any (·.same path) then k.files else k.files.set path contents) =
    if h.faults.discards.any (·.same path) then h.files else h.files.set path contents
  rw [hd, ha.files_eq]

theorem respects_write (path : FilePath) (contents : String) :
    Respects Agree (FileStore.write path contents : HostM MemoryHost Unit) :=
  respects_of_fault (write_eq path contents) fun _ _ ha ↦
    ⟨by rw [ha.faults_eq], rfl, ha.stored path contents⟩

/-- The same link on both leaves hosts that agree. -/
theorem Agree.linked {h k : MemoryHost} (ha : Agree h k) (target path : FilePath) :
    Agree (h.linked target path) (k.linked target path) := by
  refine ⟨ha.files_eq, ?_, ha.interfaces_eq, ha.addresses_eq, ha.faults_eq⟩
  show k.links.set path target = h.links.set path target
  rw [ha.links_eq]

theorem respects_link (target path : FilePath) :
    Respects Agree (FileStore.link target path : HostM MemoryHost Unit) :=
  respects_of_fault (link_eq target path) fun _ _ ha ↦
    ⟨by rw [ha.faults_eq], rfl, ha.linked target path⟩

theorem respects_addresses :
    Respects Agree (Host.addresses : HostM MemoryHost (List HostAddress)) :=
  respects_of_fault addresses_eq fun _ _ ha ↦ ⟨by rw [ha.faults_eq], ha.addresses_eq, ha⟩

/-- Reporting an event leaves hosts that agree. -/
theorem Agree.report {h k : MemoryHost} (ha : Agree h k) (e : Event) :
    Agree (Station.report e h) (Station.report e k) :=
  ⟨ha.files_eq, ha.links_eq, ha.interfaces_eq, ha.addresses_eq, ha.faults_eq⟩

/-- Whether a restart succeeds or fails, it leaves hosts that agree. -/
theorem Agree.restart {h k : MemoryHost} (ha : Agree h k) (m : NetworkManager) :
    Agree (m.restart h) (m.restart k) := by
  obtain ⟨events, hh⟩ := m.exists_restart_eq h
  obtain ⟨events', hk⟩ := m.exists_restart_eq k
  rw [hh, hk]
  exact ⟨ha.files_eq, ha.links_eq, ha.interfaces_eq, ha.addresses_eq, ha.faults_eq⟩

/-- No stage before the announcements can tell hosts apart that agree. -/
theorem indifferent_agree : Indifferent Agree where
  interfaces := respects_interfaces
  addresses := respects_addresses
  read := respects_read
  write := respects_write
  link := respects_link
  report e _ _ ha := ha.report e
  restart m _ _ ha := ha.restart m

end MemoryHost

open MemoryHost

namespace NetworkManager

/-- The checks find the same on hosts that agree, with the same error. -/
theorem checkFault?_congr (m : NetworkManager) (cs : InterfaceConfigs) {h k : MemoryHost}
    (ha : Agree h k) : m.checkFault? cs k = m.checkFault? cs h := by
  have hf : k.faults.addresses = h.faults.addresses := by rw [ha.faults_eq]
  rw [checkFault?, checkFault?, addressFault?, addressFault?, nameserverFault?, nameserverFault?,
    hf, ha.addresses_eq, ha.readsOf_eq, ha.textAt?_eq]

/-- All stages before the announcements come to the same on hosts that agree. -/
theorem respects_reconcile (m : NetworkManager) (networks : Networks) :
    Respects Agree
      (m.reconcile networks : EStateM NetworkError MemoryHost (List AddressBinding)) :=
  indifferent_agree.reconcile m networks

/-- Hosts that agree are set up with the same result, whoever waits for the announcements. -/
theorem result_setup_congr (m : NetworkManager) (networks : Networks) (c c' : Completion)
    {h k : MemoryHost} (ha : Agree h k) :
    (m.setup networks c k).1.result = (m.setup networks c' h).1.result := by
  have hrun := m.respects_reconcile networks h k ha
  unfold setup
  revert hrun
  generalize m.reconcile networks h = r
  generalize m.reconcile networks k = r'
  rintro (⟨bindings, -⟩ | ⟨e, -⟩)
  · rfl
  · rfl

end NetworkManager

end NetReconcile
