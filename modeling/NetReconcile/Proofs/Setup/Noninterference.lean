import NetReconcile.Proofs.Announce.InMemory
import NetReconcile.Proofs.Binding.Detection
import NetReconcile.Proofs.Binding.Resolution
import NetReconcile.Proofs.Setup.Indifference
import NetReconcile.Proofs.Setup.Stages

/-!
# Networks that have no part in a setup

Virtual addresses are not configured, and neither are networks for hardware that a host does not
have. Whatever such networks say, a setup goes as it would without them: it has the same result,
does the same to the host in the same order, and asks for the same announcements. It only reports
which networks it has skipped.

Binding networks is the only stage that sees the networks, and what it comes to is told by two lists
that have no such networks in them. From there on two setups can differ only in what they have
reported, which no operation of a host looks at.

## Main definitions

* `Networks.counting`: the networks that have a part in a setup on given interfaces.
* `MemoryHost.SameButSkips`: two hosts differ at most in the skipped networks that were reported.
* `MemoryHost.Silent`: an operation that neither reads nor reports events.

## Main statements

* `namedBindings_counting`, `unnamedNetworks_counting`: what binding networks is told by.
* `alike_configsFor`: the same is derived from networks of which the same count.
* `NetworkManager.setup_congr_of_counting_eq`: they are set up alike.
-/

namespace NetReconcile

/-! ### Networks that count -/

/-- Whether a network has a part in a setup on some interfaces: it is no virtual address, and the
hardware address that it names, if it names one, is that of a physical interface. -/
def NetworkSpec.counts (interfaces : List Interface) (spec : NetworkSpec) : Bool :=
  !spec.isVip && spec.macAddress?.all fun mac ↦ interfaces.any (·.physicalMac? = some mac)

/-- The networks that have a part in a setup on some interfaces, in the order of their names. -/
def Networks.counting (networks : Networks) (interfaces : List Interface) :
    List (String × NetworkSpec) :=
  networks.entries.filter (·.2.counts interfaces)

section

variable {interfaces : List Interface} {table : MacTable} {mac : String}

/-- A hardware address is entered exactly if a physical interface has it. -/
theorem isSome_device?_detect (interfaces : List Interface) (mac : String) :
    ((detect interfaces).1.device? mac).isSome = interfaces.any (·.physicalMac? = some mac) := by
  rw [device?_detect, Option.isSome_map, Bool.eq_iff_iff, List.find?_isSome, List.any_eq_true]

/-- A network that does not count is not bound by its hardware address. -/
theorem namedBinding?_eq_none_of_counts {network : String × NetworkSpec}
    (h : network.2.counts interfaces = false) :
    namedBinding? (detect interfaces).1 network = none := by
  refine Option.eq_none_iff_forall_ne_some.2 fun b hb ↦ ?_
  obtain ⟨rfl, hvip, mac, hmac, hdevice⟩ := namedBinding?_eq_some_iff.1 hb
  have hphysical : interfaces.any (·.physicalMac? = some mac) = true := by
    rw [← isSome_device?_detect, hdevice, Option.isSome_some]
  rw [NetworkSpec.counts, hvip, hmac, Option.all_some, hphysical] at h
  cases h

/-- Networks that do not count are not among those that are bound by their hardware addresses. -/
theorem namedBindings_counting (networks : Networks) (interfaces : List Interface) :
    namedBindings (detect interfaces).1 (networks.counting interfaces) =
      namedBindings (detect interfaces).1 networks.entries := by
  rw [namedBindings, Networks.counting, List.filterMap_filter]
  refine List.filterMap_congr fun network _ ↦ ?_
  split
  · rfl
  · rename_i hnot
    exact (namedBinding?_eq_none_of_counts (Bool.eq_false_iff.2 hnot)).symm

/-- A network that names no hardware address counts unless it is a virtual address. -/
theorem unnamedNetworks_counting (networks : Networks) (interfaces : List Interface) :
    unnamedNetworks (networks.counting interfaces) = unnamedNetworks networks.entries := by
  rw [unnamedNetworks, Networks.counting, List.filter_filter]
  refine List.filter_congr fun network _ ↦ ?_
  unfold NetworkSpec.counts
  cases network.2.macAddress? with
  | none => simp
  | some mac => simp

end

/-! ### Hosts that differ in reports of skipped networks -/

/-- Whether it is reported that a network is skipped. -/
def Event.isSkip : Event → Bool
  | .networkSkipped .. => true
  | _ => false

namespace MemoryHost

/-- Two hosts differ at most in the skipped networks that were reported on them. -/
structure SameButSkips (h k : MemoryHost) : Prop where
  host_eq : k = { h with events := k.events }
  events_eq : k.events.filter (!·.isSkip) = h.events.filter (!·.isSkip)

namespace SameButSkips

variable {h k : MemoryHost}

theorem refl (h : MemoryHost) : SameButSkips h h :=
  ⟨rfl, rfl⟩

/-- Hosts that differ in skipped networks still do when the same is reported. -/
theorem report (hs : SameButSkips h k) (e : Event) :
    SameButSkips (Station.report e h) (Station.report e k) := by
  refine ⟨?_, ?_⟩
  · show { k with events := k.events ++ [e] } = { h with events := k.events ++ [e] }
    rw [hs.host_eq]
  · show (k.events ++ [e]).filter _ = (h.events ++ [e]).filter _
    rw [List.filter_append, List.filter_append, hs.events_eq]

/-- Reports of skipped networks are all that they add. -/
theorem of_skipEvents (h : MemoryHost) (skips skips' : List (String × String)) :
    SameButSkips { h with events := h.events ++ skipEvents skips }
      { h with events := h.events ++ skipEvents skips' } := by
  have hnone : ∀ skips, (skipEvents skips).filter (!·.isSkip) = [] := by
    intro skips
    refine List.filter_eq_nil_iff.2 fun e he ↦ ?_
    obtain ⟨skip, -, rfl⟩ := List.mem_map.1 he
    simp [Event.isSkip]
  refine ⟨rfl, ?_⟩
  rw [List.filter_append, List.filter_append, hnone, hnone]

end SameButSkips

/-- A result on a host on which other events were reported. -/
def withEvents {ε α : Type} (events : List Event) :
    EStateM.Result ε MemoryHost α → EStateM.Result ε MemoryHost α
  | .ok a h => .ok a { h with events := events }
  | .error e h => .error e { h with events := events }

/-- An operation that neither reads the events of a host nor reports one. -/
def Silent {α : Type} (op : HostM MemoryHost α) : Prop :=
  ∀ h events, op { h with events := events } = withEvents events (op h)

/-- A silent operation cannot tell hosts apart that differ in events. -/
theorem Silent.respects {α : Type} {op : HostM MemoryHost α} (hop : Silent op) :
    Respects SameButSkips op := by
  intro h k hs
  have hk : op k = withEvents k.events (op h) := by
    rw [← hop h k.events, ← hs.host_eq]
  have hh : op h = withEvents h.events (op h) := hop h h.events
  rw [hk]
  -- the events that were there before are still all there are
  cases hop : op h with
  | ok a h' =>
    rw [hop] at hh
    injection hh with _ hstate
    refine .ok a ⟨rfl, ?_⟩
    rw [hstate]
    exact hs.events_eq
  | error e h' =>
    rw [hop] at hh
    injection hh with _ hstate
    refine .error e ⟨rfl, ?_⟩
    rw [hstate]
    exact hs.events_eq

/-- An operation that answers unless a failure is arranged for is silent if events have no part in
the failure, in the answer and in what it does. -/
theorem silent_of_fault {α : Type} {op : HostM MemoryHost α}
    {fault : MemoryHost → Option String} {answer : MemoryHost → α}
    {after : MemoryHost → MemoryHost}
    (hop : ∀ h, op h = match fault h with
      | some message => .error (.reported message) h
      | none => .ok (answer h) (after h))
    (hevents : ∀ h events, fault { h with events := events } = fault h ∧
      answer { h with events := events } = answer h ∧
      after { h with events := events } = { after h with events := events }) : Silent op := by
  intro h events
  obtain ⟨hfault, hanswer, hafter⟩ := hevents h events
  rw [hop, hop, hfault, hanswer, hafter]
  cases fault h with
  | some message => rfl
  | none => rfl

theorem silent_interfaces : Silent (Host.interfaces : HostM MemoryHost (List Interface)) :=
  silent_of_fault interfaces_eq fun _ _ ↦ ⟨rfl, rfl, rfl⟩

theorem silent_addresses : Silent (Host.addresses : HostM MemoryHost (List HostAddress)) :=
  silent_of_fault addresses_eq fun _ _ ↦ ⟨rfl, rfl, rfl⟩

theorem silent_read (path : FilePath) :
    Silent (FileStore.read path : HostM MemoryHost (Option String)) :=
  silent_of_fault (read_eq path) fun _ _ ↦ ⟨rfl, rfl, rfl⟩

theorem silent_write (path : FilePath) (contents : String) :
    Silent (FileStore.write path contents : HostM MemoryHost Unit) :=
  silent_of_fault (write_eq path contents) fun _ _ ↦ ⟨rfl, rfl, rfl⟩

theorem silent_link (target path : FilePath) :
    Silent (FileStore.link target path : HostM MemoryHost Unit) :=
  silent_of_fault (link_eq target path) fun _ _ ↦ ⟨rfl, rfl, rfl⟩

theorem silent_primaryIPv4 (interface : String) :
    Silent (Station.primaryIPv4 interface : HostM MemoryHost IPv4) := by
  intro h events
  have haddress : ({ h with events := events } : MemoryHost).addressOf? interface =
      h.addressOf? interface := rfl
  rw [primaryIPv4_eq, primaryIPv4_eq, haddress]
  cases h.addressOf? interface with
  | some ip => rfl
  | none => rfl

/-- Running a command neither reads nor reports events. -/
theorem silent_run (command : List String) :
    Silent (Station.run command : HostM MemoryHost Unit) := by
  intro h events
  rw [run_eq, run_eq]
  cases commandFault? h.faults command with
  | some message => rfl
  | none => rfl

/-- Looking for a path sees the same on hosts that differ in skipped networks. -/
theorem SameButSkips.isPresent {h k : MemoryHost} (hs : SameButSkips h k) (path : FilePath) :
    SameAnswer SameButSkips (FileStore.isPresent path h) (FileStore.isPresent path k) := by
  obtain ⟨hk, hevents⟩ := hs
  generalize k.events = events at hk hevents
  subst hk
  show SameAnswer SameButSkips (h.isPresent path)
    (MemoryHost.isPresent path { h with events := events })
  unfold MemoryHost.isPresent
  dsimp only
  split
  · exact .intro _ ⟨rfl, hevents⟩
  · exact .intro _ ⟨rfl, hevents⟩
  · exact .intro _ ⟨rfl, hevents⟩

theorem SameButSkips.record {h k : MemoryHost} (hs : SameButSkips h k) (e : Effect) :
    SameButSkips (record e h) (record e k) :=
  ⟨by rw [hs.host_eq]; rfl, hs.events_eq⟩

/-! ### Setups on such hosts -/

/-- Announcements cannot tell hosts apart that differ in skipped networks. -/
theorem indifferentAnnouncing_sameButSkips : IndifferentAnnouncing SameButSkips where
  isPresent path _ _ hs := hs.isPresent path
  primaryIPv4 interface := (silent_primaryIPv4 interface).respects
  run command := (silent_run command).respects
  pause ms h k hs := ⟨by rw [hs.host_eq]; rfl, hs.events_eq⟩
  report e _ _ hs := hs.report e

/-- No stage before the announcements can tell them apart. -/
theorem indifferent_sameButSkips : Indifferent SameButSkips where
  interfaces := silent_interfaces.respects
  addresses := silent_addresses.respects
  read path := (silent_read path).respects
  write path contents := (silent_write path contents).respects
  link target path := (silent_link target path).respects
  report e _ _ hs := hs.report e
  restart m _ _ hs := indifferentAnnouncing_sameButSkips.restart m hs

/-- Announcements cannot tell what was reported about skipped networks. -/
theorem respects_broadcast (bindings : List AddressBinding) :
    Respects SameButSkips (Host.broadcast bindings : HostM MemoryHost Unit) := by
  refine respects_broadcast_of_indifferent indifferentAnnouncing_sameButSkips (fun h k hs ↦ ?_)
    (fun e _ _ hs ↦ hs.record e) bindings
  rw [hs.host_eq]
  exact ⟨rfl, rfl, rfl⟩

/-- The interfaces that a setup learns of. -/
def detected (h : MemoryHost) : List Interface :=
  match h.faults.inventory with
  | some _ => []
  | none => h.interfaces

end MemoryHost

open MemoryHost

/-! ### Deriving from networks that count -/

section

variable {networks networks' : Networks} {table : MacTable} {h : MemoryHost}

/-- Networks are bound alike if the lists that tell what binding comes to are the same. -/
theorem alike_bindNetworks
    (hnamed : namedBindings table networks.entries = namedBindings table networks'.entries)
    (hunnamed : unnamedNetworks networks.entries = unnamedNetworks networks'.entries)
    (h : MemoryHost) :
    Alike SameButSkips (bindNetworks networks table h) (bindNetworks networks' table h) := by
  obtain ⟨skips, hresolve⟩ := exists_resolveBindings_eq networks table []
  obtain ⟨skips', hresolve'⟩ := exists_resolveBindings_eq networks' table []
  rw [bindNetworks_eq, bindNetworks_eq, hresolve, hresolve', ← hnamed, ← hunnamed]
  cases firstClash? [] (namedBindings table networks.entries) with
  | some clash => exact .error _ (.of_skipEvents h skips skips')
  | none =>
    dsimp only
    cases bindUnnamed table
      ⟨namedBindings table networks.entries, unnamedNetworks networks.entries⟩ with
    | ok bindings => exact .ok _ (.of_skipEvents h skips skips')
    | error e => exact .error _ (.of_skipEvents h skips skips')

/-- The same is derived from networks of which the same count. -/
theorem alike_configsFor
    (hcounting : networks.counting h.detected = networks'.counting h.detected) :
    Alike SameButSkips (configsFor networks h) (configsFor networks' h) := by
  unfold MemoryHost.detected at hcounting
  cases hf : h.faults.inventory with
  | some message =>
    rw [configsFor_of_fault networks hf, configsFor_of_fault networks' hf]
    exact .error _ (.refl h)
  | none =>
    rw [hf] at hcounting
    have hd : stage .discovery detectHardware h = .ok (detect h.interfaces).1 _ :=
      stage_of_ok (detectHardware_eq hf)
    have hnamed : namedBindings (detect h.interfaces).1 networks.entries =
        namedBindings (detect h.interfaces).1 networks'.entries := by
      rw [← namedBindings_counting, hcounting, namedBindings_counting]
    have hunnamed : unnamedNetworks networks.entries = unnamedNetworks networks'.entries := by
      rw [← unnamedNetworks_counting networks h.interfaces, hcounting, unnamedNetworks_counting]
    rw [configsFor, bind_of_ok hd, configsFor, bind_of_ok hd]
    exact (alike_bindNetworks hnamed hunnamed _).bind respects_derive

end

namespace NetworkManager

/-- Networks of which the same count on a host are set up with the same outcome, and the hosts that
they leave differ at most in the skipped networks that were reported on them. So their files, their
links and the whole record of writes, links, commands and announcements that were asked for are the
same. -/
theorem setup_congr_of_counting_eq (m : NetworkManager) {networks networks' : Networks}
    (completion : Completion) {h : MemoryHost}
    (hcounting : networks.counting h.detected = networks'.counting h.detected) :
    (m.setup networks' completion h).1 = (m.setup networks completion h).1 ∧
      SameButSkips (m.setup networks completion h).2 (m.setup networks' completion h).2 := by
  have hreconcile := indifferent_sameButSkips.alike_reconcile m (alike_configsFor hcounting)
  have hsetup :=
    indifferent_sameButSkips.sameAnswer_setup respects_broadcast m completion hreconcile
  exact ⟨hsetup.fst_eq, hsetup.snd⟩

/-- A host with a single interface. -/
def singleHomed : MemoryHost where
  interfaces := [⟨"eth0", some "aa", true⟩, ⟨"br0", some "bb", false⟩]

/-- A network for that interface. -/
def uplink : NetworkSpec where
  kind := .dynamic
  mac := some " AA "
  default := [.gateway]

/-- Networks that have no part on that host: a virtual address that claims the role of another
network, and a network for the hardware of a bridge, of which nothing can be read. -/
def uplinkAndMore : Networks :=
  ⟨[("bridge", { mac := some "bb", ip := some "nowhere", dns := ["-"] }), ("uplink", uplink),
      ("virtual", { kind := .vip, gateway := some "?", default := [.gateway, .dns] })],
    by decide⟩

/-- The network that has a part on that host. -/
def uplinkAlone : Networks :=
  ⟨[("uplink", uplink)], by decide⟩

/-- A virtual address that claims roles and has malformed literals, beside a network that counts. -/
theorem setup_congr_uplinkAndMore :
    uplinkAndMore.counting singleHomed.detected = uplinkAlone.counting singleHomed.detected ∧
      (setup {} uplinkAlone .awaited singleHomed).1 =
        (setup {} uplinkAndMore .awaited singleHomed).1 ∧
      SameButSkips (setup {} uplinkAndMore .awaited singleHomed).2
        (setup {} uplinkAlone .awaited singleHomed).2 := by
  have hcounting : uplinkAndMore.counting singleHomed.detected =
      uplinkAlone.counting singleHomed.detected := by decide
  exact ⟨hcounting, setup_congr_of_counting_eq {} .awaited hcounting⟩

end NetworkManager

end NetReconcile
