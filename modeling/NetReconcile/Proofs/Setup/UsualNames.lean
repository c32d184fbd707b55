import NetReconcile.Proofs.ManagedPath
import NetReconcile.Proofs.Setup.ConfiguredAfter

/-!
# Setups where shared files have their usual names

Statements about whole setups ask that files do not get in each other's way. They do not where the
shared files have their usual names, in whatever directories: binding gives every network an
interface of its own, and the files and links of different interfaces are different paths. What is
left to ask of a host is that its interfaces have names without slashes, and that none of its links
is where a file has to go.

## Main statements

* `ConfigPaths.HasUsualNames.separate`: files of different interfaces are separate.
* `NetworkManager.converged_of_hasUsualNames`: a setup that nothing hinders makes such a host
  converge.
* `NetworkManager.filesApart_of_hasUsualNames`: nothing but configuring an interface makes its file.
-/

namespace NetReconcile

open MemoryHost

/-- Files of different interfaces are separate, unless a link of the host is where one of them has
to go. -/
theorem ConfigPaths.HasUsualNames.separate {paths : ConfigPaths} {h : MemoryHost}
    {cs : InterfaceConfigs} (hnames : paths.HasUsualNames)
    (hnodup : (cs.configs.map (·.device)).Nodup) (hflat : ∀ c ∈ cs.configs, '/' ∉ c.device.toList)
    (hunlinked : ∀ f ∈ paths.render cs, h.links.get? f.path = none) : paths.Separate h cs := by
  have hpaths := ConfigPaths.pairwise_managed hnames hnodup hflat
  obtain ⟨hfiles, -, hapart⟩ := List.pairwise_append.1 hpaths
  refine ⟨List.pairwise_map.1 hfiles, hunlinked, fun f hf c hc ↦ ?_⟩
  rw [FilePath.same_comm]
  exact hapart _ (List.mem_map_of_mem hf) _ (List.mem_map_of_mem hc)

namespace NetworkManager

variable {m : NetworkManager} {networks : Networks} {h : MemoryHost} {cs : InterfaceConfigs}

/-- A setup that nothing hinders makes the host converge, if interfaces have names without slashes
and no link is where a file has to go. -/
theorem converged_of_hasUsualNames (hnames : m.paths.HasUsualNames) (completion : Completion)
    (hf : h.FaultFree) (hd : derivedConfigs networks h.interfaces = .ok cs)
    (hflat : ∀ i ∈ h.interfaces, '/' ∉ i.name.toList)
    (hunlinked : ∀ f ∈ m.paths.render cs, h.links.get? f.path = none) :
    Converged m cs h (m.setup networks completion h).1.result
      (m.setup networks completion h).2 := by
  have hs := hnames.separate (devices_of_derivedConfigs hd).1
    (slash_notMem_of_derivedConfigs hd hflat) hunlinked
  obtain ⟨events, changed, announcing, hr⟩ :=
    exists_reached_of_ends hf hd (m.ends_setup networks completion h)
  exact hr.converged hf hs

/-- Nothing but configuring an interface makes its file, if interfaces have different names without
slashes and no file of theirs is about to appear by itself. -/
theorem filesApart_of_hasUsualNames (hnames : m.paths.HasUsualNames)
    (hnodup : (h.interfaces.map (·.name)).Nodup)
    (hflat : ∀ i ∈ h.interfaces, '/' ∉ i.name.toList)
    (hsteady : ∀ i ∈ h.interfaces, h.Steady (m.paths.ifcfg i.name)) : m.FilesApart h where
  names_nodup := hnodup
  slash_notMem := hflat
  dhclientConf i hi := (hnames.not_same_ifcfg (hflat i hi)).1
  resolvConf i hi := (hnames.not_same_ifcfg (hflat i hi)).2
  steady := hsteady

end NetworkManager

end NetReconcile
