import NetReconcile.Proofs.Binding.Detection
import NetReconcile.Proofs.Binding.Resolution
import NetReconcile.Proofs.Derivation.Roles
import NetReconcile.Proofs.Setup.Configured
import NetReconcile.Proofs.Setup.Convergence
import NetReconcile.Proofs.Setup.Noninterference
import NetReconcile.Proofs.Text.ByteOrder

/-!
# The configured interfaces after a setup

What was set up is what is reported as configured. A setup that gets past writing adds the
interfaces of its bindings to the configured ones and takes none away. A setup that detects nothing
or derives nothing leaves them as they were.

Writing and listing build the same paths from different views of the inventory: writing starts from
the table of hardware addresses, listing from the inventory itself. They meet in what is at the file
of an interface. Besides writing there are only the looks of the announcements, which are not seen
at a path that is not waited for.

## Main definitions

* `NetworkManager.FilesApart`: nothing but configuring an interface makes its file.
* `NetworkManager.ConfiguredAfter`: the configured interfaces before and after bindings.

## Main statements

* `NetworkManager.appearing_setup`: a setup does not touch what is not waited for.
* `NetworkManager.exists_configured_eq`: the configured interfaces of a host without faults.
* `NetworkManager.configured_setup`: the configured interfaces after a setup.

## What a setup leaves alone

That a setup takes no interface away is a statement about everything that it does, so it is shown
like statements about two hosts: `SameAwaiting` relates a host to what becomes of it, and the
lemmas about hosts that cannot be told apart carry it through all stages. What is seen at the file
of an interface is then decided by writing alone, where `ConfigPaths.exists_step_iff` says for which
interfaces a file is made.
-/

namespace NetReconcile

namespace MemoryHost

/-! ### Paths that are not waited for -/

/-- The same host, on which a path is waited for as long as is said. -/
def SameAwaiting (path : FilePath) (misses? : Option Nat) (h k : MemoryHost) : Prop :=
  k = h ∧ h.appearing.get? path = misses?

section

variable {path : FilePath} {misses? : Option Nat}
  (hsteady : ∀ misses, misses? ≠ some (misses + 1))

include hsteady

/-- A path that is not waited for is not waited for after looks either. -/
theorem sameAnswer_isPresent_sameAwaiting (p : FilePath) {h k : MemoryHost}
    (hs : SameAwaiting path misses? h k) :
    SameAnswer (SameAwaiting path misses?) (FileStore.isPresent p h) (FileStore.isPresent p k) := by
  obtain ⟨rfl, hwaits⟩ := hs
  have hleft : (FileStore.isPresent p k).2.appearing.get? path = misses? := by
    rw [get?_appearing_isPresent_of_apart (.inr (by simpa [Steady, hwaits] using hsteady)), hwaits]
  generalize FileStore.isPresent p k = x at hleft
  exact .intro x.1 ⟨rfl, hleft⟩

/-- Announcements leave alone what is not waited for. -/
theorem indifferentAnnouncing_sameAwaiting :
    IndifferentAnnouncing (SameAwaiting path misses?) where
  isPresent p _ _ hs := sameAnswer_isPresent_sameAwaiting hsteady p hs
  primaryIPv4 interface h _ := by
    rintro ⟨rfl, hwaits⟩
    rw [primaryIPv4_eq]
    split
    · exact .ok _ ⟨rfl, hwaits⟩
    · exact .error _ ⟨rfl, hwaits⟩
  run command h _ := by
    rintro ⟨rfl, hwaits⟩
    rw [run_eq]
    split
    · exact .error _ ⟨rfl, hwaits⟩
    · exact .ok _ ⟨rfl, hwaits⟩
  pause _ _ _ := by
    rintro ⟨rfl, hwaits⟩
    exact ⟨rfl, hwaits⟩
  report _ _ _ := by
    rintro ⟨rfl, hwaits⟩
    exact ⟨rfl, hwaits⟩

/-- The stages before the announcements leave it alone too: none of them looks whether anything is
there. -/
theorem indifferent_sameAwaiting : Indifferent (SameAwaiting path misses?) where
  interfaces := respects_of_fault interfaces_eq fun _ _ hs ↦ ⟨by rw [hs.1], by rw [hs.1], hs⟩
  addresses := respects_of_fault addresses_eq fun _ _ hs ↦ ⟨by rw [hs.1], by rw [hs.1], hs⟩
  read p := respects_of_fault (read_eq p) fun _ _ hs ↦ ⟨by rw [hs.1], by rw [hs.1], hs⟩
  write p contents := respects_of_fault (write_eq p contents) fun _ _ hs ↦
    ⟨by rw [hs.1], rfl, by rw [hs.1], hs.2⟩
  link target p := respects_of_fault (link_eq target p) fun _ _ hs ↦
    ⟨by rw [hs.1], rfl, by rw [hs.1], hs.2⟩
  report := (indifferentAnnouncing_sameAwaiting hsteady).report
  restart m _ _ hs := (indifferentAnnouncing_sameAwaiting hsteady).restart m hs

theorem respects_broadcast_sameAwaiting (bindings : List AddressBinding) :
    Respects (SameAwaiting path misses?) (Host.broadcast bindings : HostM MemoryHost Unit) := by
  refine respects_broadcast_of_indifferent (indifferentAnnouncing_sameAwaiting hsteady)
    (fun h k hs ↦ ?_) (fun e h k hs ↦ ⟨by rw [hs.1], hs.2⟩) bindings
  rw [hs.1]
  exact ⟨rfl, rfl, rfl⟩

end

/-! ### Looks -/

variable {h : MemoryHost} {p : FilePath}

/-- Where a path is not waited for, a look sees whether it has appeared or something is there. -/
theorem sees_iff (hsteady : h.Steady p) :
    h.sees p = true ↔ h.appearing.get? p = some 0 ∨ h.Has p := by
  rw [sees]
  rcases hwaits : h.appearing.get? p with _ | _ | misses
  · simp [Has]
  · simp
  · exact absurd hwaits (hsteady misses)

theorem isPresent_withEvents (p : FilePath) (h : MemoryHost) (events : List Event) :
    FileStore.isPresent p { h with events := events } =
      ((FileStore.isPresent p h).1, { (FileStore.isPresent p h).2 with events := events }) := by
  show MemoryHost.isPresent p { h with events := events } =
    ((h.isPresent p).1, { (h.isPresent p).2 with events := events })
  unfold MemoryHost.isPresent
  dsimp only
  split
  · rfl
  · rfl
  · rfl

end MemoryHost

open MemoryHost

namespace NetworkManager

variable {m : NetworkManager} {networks : Networks} {completion : Completion} {h h' : MemoryHost}
  {cs : InterfaceConfigs} {p : FilePath} {interfaces : List Interface}

/-- A setup does not touch what is not waited for. -/
theorem appearing_setup (m : NetworkManager) (networks : Networks) (completion : Completion)
    (hsteady : h.Steady p) :
    (m.setup networks completion h).2.appearing.get? p = h.appearing.get? p := by
  have hR : Indifferent (SameAwaiting p (h.appearing.get? p)) := indifferent_sameAwaiting hsteady
  have hrun := hR.reconcile m networks h h ⟨rfl, rfl⟩
  exact (hR.sameAnswer_setup (respects_broadcast_sameAwaiting hsteady) m completion hrun).snd.2

/-- After a setup that gets past writing, a look sees what it saw before, and the paths of the steps
of writing. -/
theorem sees_setup (hf : h.FaultFree) (hd : derivedConfigs networks h.interfaces = .ok cs)
    (hsteady : h.Steady p) :
    (m.setup networks completion h).2.sees p = true ↔
      h.sees p = true ∨ ∃ s ∈ m.paths.writeSteps cs, s.path.same p = true := by
  obtain ⟨events, changed, announcing, hr⟩ :=
    exists_reached_of_ends hf hd (m.ends_setup networks completion h)
  have happearing := m.appearing_setup networks completion hsteady
  have hsteady' : (m.setup networks completion h).2.Steady p := by
    intro misses
    rw [happearing]
    exact hsteady misses
  have hf' : FaultFree { h with events := events } := hf
  have hhas : (m.setup networks completion h).2.Has p ↔
      h.Has p ∨ ∃ s ∈ m.paths.writeSteps cs, s.path.same p = true := by
    rw [Has, hr.agree.files_eq, hr.agree.links_eq]
    exact WriteStep.has_afterAll hf' (m.paths.writeSteps cs) p
  rw [sees_iff hsteady', sees_iff hsteady, happearing, hhas, or_assoc]

/-! ### Listing -/

/-- Where no file is waited for, listing is asking each interface by itself. -/
theorem withFile_eq_map_filter (hsteady : ∀ i ∈ interfaces, h.Steady (m.paths.ifcfg i.name)) :
    (m.withFile interfaces h).1 =
      (interfaces.filter fun i ↦ i.isPhysical && h.sees (m.paths.ifcfg i.name)).map (·.name) := by
  induction interfaces generalizing h with
  | nil => rfl
  | cons i is ih =>
    obtain ⟨hi, his⟩ := List.forall_mem_cons.1 hsteady
    cases hphysical : i.isPhysical with
    | false =>
      rw [withFile_cons_of_not_physical hphysical, ih his,
        List.filter_cons_of_neg (by simp [hphysical])]
    | true =>
      have hrest := ih fun j hj ↦ (his j hj).isPresent (m.paths.ifcfg i.name)
      have hsees : (is.filter fun j ↦ j.isPhysical &&
            (FileStore.isPresent (m.paths.ifcfg i.name) h).2.sees (m.paths.ifcfg j.name)) =
          is.filter fun j ↦ j.isPhysical && h.sees (m.paths.ifcfg j.name) :=
        List.filter_congr fun j hj ↦ by rw [sees_isPresent (.inr (his j hj))]
      rw [withFile_cons_of_physical hphysical, hrest, hsees, List.filter_cons, hphysical,
        Bool.true_and]
      split
      · rfl
      · rfl

/-- On a host without faults whose interfaces have different names, the configured interfaces are
the physical ones at whose files a look sees something, in the order of the bytes of their names. -/
theorem exists_configured_eq (hf : h.FaultFree) (hn : (h.interfaces.map (·.name)).Nodup)
    (hsteady : ∀ i ∈ h.interfaces, h.Steady (m.paths.ifcfg i.name)) :
    ∃ names k, m.configured h = .ok names k ∧
      names.Pairwise (fun a b ↦ Text.toBytes a < Text.toBytes b) ∧
      ∀ name, name ∈ names ↔ (∃ i ∈ h.interfaces, i.isPhysical = true ∧ i.name = name) ∧
        h.sees (m.paths.ifcfg name) = true := by
  have hinventory : h.faults.inventory = none := by
    rw [hf.faults_eq]
  have hlist := withFile_eq_map_filter hsteady
  refine ⟨_, (m.withFile h.interfaces h).2, by rw [configured_eq, hinventory], ?_, fun name ↦ ?_⟩
  · have hdistinct : (m.withFile h.interfaces h).1.mergeSort.Nodup := by
      rw [(List.mergeSort_perm _ _).nodup_iff, hlist]
      exact hn.sublist (List.filter_sublist.map _)
    refine ((pairwise_mergeSort_names _).and hdistinct).imp fun {a b} ⟨hle, hne⟩ ↦ ?_
    exact Text.toBytes_lt_toBytes_iff.2 (lt_of_le_of_ne hle hne)
  · rw [List.mem_mergeSort, hlist, List.mem_map]
    simp only [List.mem_filter, Bool.and_eq_true]
    constructor
    · rintro ⟨i, ⟨hi, hphysical, hsees⟩, rfl⟩
      exact ⟨⟨i, hi, hphysical, rfl⟩, hsees⟩
    · rintro ⟨⟨i, hi, hphysical, rfl⟩, hsees⟩
      exact ⟨i, ⟨hi, hphysical, hsees⟩, rfl⟩

/-- Reported events have no part in which interfaces are configured. -/
theorem withFile_withEvents (m : NetworkManager) (interfaces : List Interface) (h : MemoryHost)
    (events : List Event) :
    m.withFile interfaces { h with events := events } =
      ((m.withFile interfaces h).1, { (m.withFile interfaces h).2 with events := events }) := by
  induction interfaces generalizing h with
  | nil => rfl
  | cons i is ih =>
    rw [withFile, withFile, isPresent_withEvents]
    dsimp only
    rw [ih, ih]
    split
    · rfl
    · rfl

/-- What was reported has no part in what is configured. -/
theorem configured_withEvents (m : NetworkManager) (h : MemoryHost) (events : List Event) :
    m.configured { h with events := events } = withEvents events (m.configured h) := by
  rw [configured_eq, configured_eq, withFile_withEvents]
  dsimp only
  cases h.faults.inventory with
  | some message => rfl
  | none => rfl

/-! ### Setups -/

/-- Nothing but configuring an interface makes its file: interfaces have different names without
slashes, the files that all interfaces share are none of theirs, and no file of an interface is
about to appear by itself, as none is on a host that only changes by what is done to it. -/
structure FilesApart (m : NetworkManager) (h : MemoryHost) : Prop where
  names_nodup : (h.interfaces.map (·.name)).Nodup
  slash_notMem : ∀ i ∈ h.interfaces, '/' ∉ i.name.toList
  dhclientConf : ∀ i ∈ h.interfaces, m.paths.dhclientConf.same (m.paths.ifcfg i.name) = false
  resolvConf : ∀ i ∈ h.interfaces, m.paths.resolvConf.same (m.paths.ifcfg i.name) = false
  steady : ∀ i ∈ h.interfaces, h.Steady (m.paths.ifcfg i.name)

/-- The configured interfaces `before` and `after` a setup with `bindings`. -/
structure ConfiguredAfter (interfaces : List Interface) (bindings : List Binding)
    (before after : List String) : Prop where
  /-- They are listed in the order of the bytes of their names, each of them once. -/
  ordered : after.Pairwise fun a b ↦ Text.toBytes a < Text.toBytes b
  /-- They are those from before and those of the bindings. -/
  mem_iff : ∀ name, name ∈ after ↔ name ∈ before ∨ name ∈ bindings.map (·.device)
  /-- All of them are physical, whatever files there are for others. -/
  physical : ∀ name ∈ after, ∃ i ∈ interfaces, i.isPhysical = true ∧ i.name = name
  notVirtual : ∀ i ∈ interfaces, i.isPhysical = false → i.name ∉ after

/-- What is derived comes from bindings, whose interfaces it is for. -/
theorem exists_bindings_of_derivedConfigs (hd : derivedConfigs networks interfaces = .ok cs) :
    ∃ bindings, bindingResult networks (detect interfaces).1 [] = .ok bindings ∧
      (cs.configs.map (·.device)).Perm (bindings.map (·.device)) := by
  unfold derivedConfigs at hd
  rw [bindingResult]
  cases hresolve : resolveBindings networks (detect interfaces).1 [] with
  | error e events =>
    rw [hresolve] at hd
    cases hd
  | ok bindings events =>
    rw [hresolve] at hd
    exact ⟨bindings, rfl, perm_devices_of_deriveConfigs_eq_ok hd⟩

/-- Networks are bound to physical interfaces. -/
theorem exists_physical_of_mem_bindings {bindings : List Binding} {name : String}
    (hb : bindingResult networks (detect interfaces).1 [] = .ok bindings)
    (hname : name ∈ bindings.map (·.device)) :
    ∃ i ∈ interfaces, i.isPhysical = true ∧ i.name = name := by
  obtain ⟨hnodup, hcompletes⟩ := bindingResult_eq_ok_iff.1 hb
  obtain ⟨b, hmem, rfl⟩ := List.mem_map.1 hname
  obtain ⟨-, -, hdevice⟩ := (hcompletes.sound hnodup).1 b hmem
  exact exists_physical_of_mem_detect hdevice

/-- Configurations are derived for physical interfaces, and no two for the same. -/
theorem devices_of_derivedConfigs (hd : derivedConfigs networks interfaces = .ok cs) :
    (cs.configs.map (·.device)).Nodup ∧
      ∀ c ∈ cs.configs, ∃ i ∈ interfaces, i.isPhysical = true ∧ i.name = c.device := by
  obtain ⟨bindings, hbindings, hdevices⟩ := exists_bindings_of_derivedConfigs hd
  obtain ⟨hnodup, hcompletes⟩ := bindingResult_eq_ok_iff.1 hbindings
  refine ⟨hdevices.nodup_iff.2 (hcompletes.sound hnodup).2, fun c hc ↦ ?_⟩
  exact exists_physical_of_mem_bindings hbindings (hdevices.mem_iff.1 (List.mem_map_of_mem hc))

/-- Configurations are for interfaces of the inventory, so their names have no slashes if those have
none. -/
theorem slash_notMem_of_derivedConfigs (hd : derivedConfigs networks interfaces = .ok cs)
    (hslash : ∀ i ∈ interfaces, '/' ∉ i.name.toList) : ∀ c ∈ cs.configs, '/' ∉ c.device.toList := by
  intro c hc
  obtain ⟨i, hi, -, hname⟩ := (devices_of_derivedConfigs hd).2 c hc
  exact hname ▸ hslash i hi

/-- After a setup something is at the file of an interface if it was there before or the interface
has a configuration. -/
theorem FilesApart.sees_setup_iff (ha : m.FilesApart h) (completion : Completion)
    (hf : h.FaultFree) (hd : derivedConfigs networks h.interfaces = .ok cs) {i : Interface}
    (hi : i ∈ h.interfaces) :
    (m.setup networks completion h).2.sees (m.paths.ifcfg i.name) = true ↔
      h.sees (m.paths.ifcfg i.name) = true ∨ i.name ∈ cs.configs.map (·.device) := by
  have hslash := slash_notMem_of_derivedConfigs hd ha.slash_notMem
  rw [sees_setup hf hd (ha.steady i hi), ConfigPaths.exists_step_iff hslash (ha.slash_notMem i hi)
    (ha.dhclientConf i hi) (ha.resolvConf i hi)]

/-- A setup that derives configurations adds their interfaces to the configured ones, whether or not
the checks pass after it. -/
theorem FilesApart.configuredAfter (ha : m.FilesApart h) (completion : Completion)
    (hf : h.FaultFree) (hd : derivedConfigs networks h.interfaces = .ok cs) :
    ∃ bindings before after k k',
      bindingResult networks (detect h.interfaces).1 [] = .ok bindings ∧
        m.configured h = .ok before k ∧
        m.configured (m.setup networks completion h).2 = .ok after k' ∧
        ConfiguredAfter h.interfaces bindings before after := by
  obtain ⟨bindings, hbindings, hdevices⟩ := exists_bindings_of_derivedConfigs hd
  have hsees : ∀ i ∈ h.interfaces,
      ((m.setup networks completion h).2.sees (m.paths.ifcfg i.name) = true ↔
        h.sees (m.paths.ifcfg i.name) = true ∨ i.name ∈ bindings.map (·.device)) := by
    intro i hi
    rw [ha.sees_setup_iff completion hf hd hi, hdevices.mem_iff]
  -- the host that the setup leaves is listed like the one that it was given
  have hhost := (m.ends_setup networks completion h).host_eq
  have hinterfaces : (m.setup networks completion h).2.interfaces = h.interfaces := by rw [hhost]
  have hf' : (m.setup networks completion h).2.FaultFree := by
    rw [hhost]
    exact hf
  have hsteady' : ∀ i ∈ h.interfaces,
      (m.setup networks completion h).2.Steady (m.paths.ifcfg i.name) := by
    intro i hi misses
    rw [m.appearing_setup networks completion (ha.steady i hi)]
    exact ha.steady i hi misses
  obtain ⟨before, k, hbefore, -, hmem⟩ := exists_configured_eq hf ha.names_nodup ha.steady
  obtain ⟨after, k', hafter, hordered, hmem'⟩ :=
    exists_configured_eq (m := m) hf' (hinterfaces ▸ ha.names_nodup) (hinterfaces ▸ hsteady')
  rw [hinterfaces] at hmem'
  have hphysical : ∀ name ∈ after, ∃ i ∈ h.interfaces, i.isPhysical = true ∧ i.name = name :=
    fun name hname ↦ ((hmem' name).1 hname).1
  refine ⟨bindings, before, after, k, k', hbindings, hbefore, hafter, hordered, fun name ↦ ?_,
    hphysical, fun i hi hvirtual hname ↦ ?_⟩
  · rw [hmem, hmem']
    constructor
    · rintro ⟨⟨i, hi, hphysical, rfl⟩, hafter⟩
      exact ((hsees i hi).1 hafter).imp_left fun hsees ↦ ⟨⟨i, hi, hphysical, rfl⟩, hsees⟩
    · rintro (⟨⟨i, hi, hphysical, rfl⟩, hbefore⟩ | hbound)
      · exact ⟨⟨i, hi, hphysical, rfl⟩, (hsees i hi).2 (.inl hbefore)⟩
      · obtain ⟨i, hi, hphysical, rfl⟩ := exists_physical_of_mem_bindings hbindings hbound
        exact ⟨⟨i, hi, hphysical, rfl⟩, (hsees i hi).2 (.inr hbound)⟩
  · -- a virtual interface would share its name with a physical one
    obtain ⟨j, hj, hphysical, hsame⟩ := hphysical i.name hname
    rw [List.inj_on_of_nodup_map ha.names_nodup hj hi hsame, hvirtual] at hphysical
    cases hphysical

/-- A setup that gets past writing on a host without faults adds the interfaces that it binds to the
configured ones. On any host, a setup that ends before deriving leaves them as they were, errors
included. -/
theorem configured_setup {m : NetworkManager} {networks : Networks} {completion : Completion}
    {h h' : MemoryHost} {out : SetupOutcome} (hrun : m.setup networks completion h = (out, h')) :
    (h.FaultFree → m.FilesApart h →
      (out.result = .ok () ∨ ∃ target e, out.result = .error (.validation target e)) →
        ∃ bindings before after k k',
          bindingResult networks (detect h.interfaces).1 [] = .ok bindings ∧
            m.configured h = .ok before k ∧ m.configured h' = .ok after k' ∧
            ConfiguredAfter h.interfaces bindings before after) ∧
      ((∃ e, out.result = .error (.discovery e)) ∨ (∃ e, out.result = .error (.derivation e)) →
        ∃ events, m.configured h' = withEvents events (m.configured h)) := by
  have hends := ends_of_setup_eq hrun
  refine ⟨fun hf ha hpast ↦ ?_, fun hearly ↦ ?_⟩
  · obtain ⟨cs, hd⟩ := exists_derivedConfigs_of_ends hends hpast
    have hafter := ha.configuredAfter completion hf hd
    rwa [hrun] at hafter
  · cases hends with
    | undetected hinventory => exact ⟨h.events, m.configured_withEvents h h.events⟩
    | @underived e events hd => exact ⟨events, m.configured_withEvents h events⟩
    | unwritten hd hw => simp at hearly
    | unconfirmed hd hw hc =>
      obtain ⟨target, cause, rfl⟩ := exists_validation_of_checkFault?_eq_some hc
      simp at hearly
    | completed hd hw hc ha ho hr => simp at hearly

/-- A host on which one interface is configured, and a virtual one has a file all the same. -/
def bridged : MemoryHost where
  files := [(⟨"/n/ifcfg-br0"⟩, ""), (⟨"/n/ifcfg-eth9"⟩, "")]
  interfaces := [⟨"eth9", some "cc", true⟩, ⟨"br0", some "dd", false⟩, ⟨"eth1", some "bb", true⟩,
    ⟨"eth0", some "aa", true⟩]

/-- Networks that cannot be told apart by the interfaces that they name. -/
def ambiguous : Networks :=
  NameMap.ofList [("a", {}), ("b", {})]

theorem filesApart_bridged : FilesApart terse bridged where
  names_nodup := by decide
  slash_notMem := by decide +kernel
  dhclientConf := by decide +kernel
  resolvConf := by decide +kernel
  steady _ _ misses := by simp [bridged]

theorem derivedConfigs_bridged :
    derivedConfigs lanAndWan bridged.interfaces = .ok lanAndWanConfigs := by
  have hbind : resolveBindings lanAndWan (detect bridged.interfaces).1 [] =
      .ok lanAndWanBindings [] := rfl
  rw [derivedConfigs, hbind]
  exact deriveConfigs_lanAndWan

/-- Two networks without a hardware address cannot be told apart there. -/
theorem result_setup_ambiguous :
    (terse.setup ambiguous .awaited bridged).1.result =
      .error (.derivation (.ambiguousBinding ["a", "b"])) :=
  rfl

/-- The host after a setup whose checks fail, and after one that derives nothing. -/
theorem configured_setup_bridged :
    (∃ bindings before after k k',
        bindingResult lanAndWan (detect bridged.interfaces).1 [] = .ok bindings ∧
          terse.configured bridged = .ok before k ∧
          terse.configured (terse.setup lanAndWan .awaited bridged).2 = .ok after k' ∧
          ConfiguredAfter bridged.interfaces bindings before after) ∧
      ∃ events, terse.configured (terse.setup ambiguous .awaited bridged).2 =
        withEvents events (terse.configured bridged) := by
  have hf : bridged.FaultFree := rfl
  obtain ⟨events, changed, announcing, hr⟩ :=
    exists_reached_of_ends hf derivedConfigs_bridged (terse.ends_setup lanAndWan .awaited bridged)
  have hsetup := configured_setup (Prod.eta (terse.setup lanAndWan .awaited bridged)).symm
  have hfails := configured_setup (Prod.eta (terse.setup ambiguous .awaited bridged)).symm
  exact ⟨hsetup.1 hf filesApart_bridged hr.ok_or_validation,
    hfails.2 (.inr ⟨_, result_setup_ambiguous⟩)⟩

end NetworkManager

end NetReconcile
