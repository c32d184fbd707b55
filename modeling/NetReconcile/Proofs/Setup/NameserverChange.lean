import Mathlib.Data.List.Pairwise
import NetReconcile.Proofs.Materialize.Nameservers
import NetReconcile.Proofs.Setup.Convergence

/-!
# Setting up networks with other nameservers

When nothing but the nameservers of networks changes between two setups, the second one writes what
shows nameservers and nothing else: the files of all static interfaces, the configuration of the
DHCP client, and the resolver file unless it holds its text already. It restarts the network service
once for all of them. If the nameservers of the host are the same in the end, although networks name
others, it writes nothing and does not restart.

## Main definitions

* `ConfigPaths.refreshed`: the files that show nameservers.
* `NetworkManager.NameserversChanged`: what a setup with other nameservers does to a host.

## Main statements

* `ConfigPaths.map_path_stale_eq_refreshed`: files are stale exactly if they show nameservers.
* `NetworkManager.nameserversChanged_setup`: other nameservers touch only what shows them.
-/

namespace NetReconcile

open MemoryHost

/-- Networks that differ in their nameservers only have configurations that differ in the
nameservers that are lent. -/
theorem relent_of_derivedConfigs {networks networks' : Networks} {interfaces : List Interface}
    {cs cs' : InterfaceConfigs}
    (hn : NetworksCorrespond NetworkSpec.SameButDns networks.entries networks'.entries)
    (hd : derivedConfigs networks interfaces = .ok cs)
    (hd' : derivedConfigs networks' interfaces = .ok cs') : cs.Relent cs' := by
  have hbound := endsAlike_resolveBindings keepsHardware_sameButDns hn (detect interfaces).1 []
  unfold derivedConfigs at hd hd'
  generalize resolveBindings networks (detect interfaces).1 [] = r,
    resolveBindings networks' (detect interfaces).1 [] = r' at hbound hd hd'
  cases hbound with
  | error e events => cases hd
  | ok events hbindings => exact relent_of_deriveConfigs hbindings hd hd'

namespace InterfaceConfigs.Relent

variable {cs cs' : InterfaceConfigs}

/-- If the nameservers of the host are the same, so are all configurations. -/
theorem eq_of_dns_eq (h : cs.Relent cs') (hdns : cs'.dns = cs.dns) : cs' = cs := by
  obtain ⟨configs, dns⟩ := cs
  obtain ⟨configs', dns'⟩ := cs'
  obtain rfl : dns' = dns := hdns
  obtain rfl : configs' = configs :=
    h.relent.trans ((List.map_congr_left h.lent).trans (List.map_id' _))
  rfl

theorem isDhcp_eq (h : cs.Relent cs') :
    cs'.configs.map (·.isDhcp) = cs.configs.map (·.isDhcp) := by
  rw [h.relent, List.map_map]
  exact List.map_congr_left fun c _ ↦ c.isDhcp_lend cs'.dns

theorem hasDhcp_eq (h : cs.Relent cs') : cs'.hasDhcp = cs.hasDhcp := by
  have hany := congrArg (List.any · id) h.isDhcp_eq
  rwa [List.any_map, List.any_map] at hany

/-- Every static configuration shows the nameservers of the host. -/
theorem dns_eq_of_static (h : cs.Relent cs') {c : InterfaceConfig} (hc : c ∈ cs.configs)
    (hstatic : c.isDhcp = false) : c.dns = cs.dns := by
  have hlent := h.lent c hc
  rw [InterfaceConfig.lend_of_static hstatic] at hlent
  exact (congrArg (·.dns) hlent).symm

/-- Dynamic configurations are lent nothing, so they are the same. -/
theorem dhcps_eq (h : cs.Relent cs') : cs'.dhcps = cs.dhcps := by
  rw [InterfaceConfigs.dhcps, h.relent, List.filter_map]
  have hkind : (fun c : InterfaceConfig ↦ c.isDhcp) ∘ InterfaceConfig.lend cs'.dns =
      fun c ↦ c.isDhcp :=
    funext fun c ↦ c.isDhcp_lend cs'.dns
  rw [hkind, InterfaceConfigs.dhcps]
  refine (List.map_congr_left fun c hc ↦ ?_).trans (List.map_id' _)
  exact InterfaceConfig.lend_of_isDhcp (List.mem_filter.1 hc).2

/-- Where nameservers differ, there is a configuration that shows them. -/
theorem configs_ne_nil (h : cs.Relent cs') (hdns : cs'.dns ≠ cs.dns) : cs'.configs ≠ [] := by
  intro hnil
  rw [h.relent, List.map_eq_nil_iff] at hnil
  obtain ⟨hnone, hnone'⟩ := h.dns_eq_nil hnil
  exact hdns (hnone'.trans hnone.symm)

end InterfaceConfigs.Relent

/-! ### Files that show nameservers -/

namespace ConfigPaths

/-- The files that show nameservers, but for a resolver file that holds its text. -/
def refreshed (paths : ConfigPaths) (h : MemoryHost) (cs : InterfaceConfigs) : List FilePath :=
  cs.statics.map (fun c ↦ paths.ifcfg c.device) ++
    (if cs.hasDhcp then [paths.dhclientConf] else []) ++
    if cs.dns ≠ [] ∧ h.textAt? paths.resolvConf ≠ some (NetReconcile.resolvConf cs.dns) then
      [paths.resolvConf]
    else []

/-- Every file of a set of configurations holds its text. -/
def HeldBy (paths : ConfigPaths) (cs : InterfaceConfigs) (h : MemoryHost) : Prop :=
  ∀ path contents, ⟨path, contents⟩ ∈ paths.render cs → h.textAt? path = some contents

variable {paths : ConfigPaths} {h : MemoryHost} {cs cs' : InterfaceConfigs}

/-- Where every file holds its text, none has to be written. -/
theorem HeldBy.stale_eq_nil (hheld : paths.HeldBy cs h) : paths.stale h cs = [] :=
  List.filter_eq_nil_iff.2 fun ⟨path, contents⟩ hf ↦ by simp [hheld path contents hf]

/-- The file of an interface is one of them. -/
theorem HeldBy.interface (hheld : paths.HeldBy cs h) {c : InterfaceConfig} (hc : c ∈ cs.configs) :
    h.textAt? (paths.ifcfg c.device) = some c.ifcfg :=
  hheld _ _ (paths.mem_render_of_mem_configs hc)

/-- The configuration of the DHCP client is one of them, if there is one. -/
theorem HeldBy.dhclient (hheld : paths.HeldBy cs h) (hdhcp : cs.hasDhcp = true) :
    h.textAt? paths.dhclientConf = some (NetReconcile.dhclientConf cs.dns) := by
  refine hheld _ _ ?_
  rw [render, dhclientFile?, if_pos hdhcp]
  exact List.mem_append_left _ (List.mem_append_right _ (List.mem_singleton_self _))

/-- The file of an interface has to be written again exactly if it is static. -/
theorem stale_interface_iff (hr : cs.Relent cs') (hheld : paths.HeldBy cs h)
    (hdns : cs'.dns ≠ cs.dns) {c : InterfaceConfig} (hc : c ∈ cs'.configs) :
    h.textAt? (paths.ifcfg c.device) ≠ some c.ifcfg ↔ c.isDhcp = false := by
  rw [hr.relent] at hc
  obtain ⟨d, hd, rfl⟩ := List.mem_map.1 hc
  have hlent : d.isDhcp = false → d.dns = cs.dns := hr.dns_eq_of_static hd
  rw [InterfaceConfig.device_lend, InterfaceConfig.isDhcp_lend, hheld.interface hd, ne_eq,
    Option.some.injEq, eq_comm, InterfaceConfig.ifcfg_lend_eq_iff, not_or, Bool.not_eq_true]
  constructor
  · exact And.left
  · intro hstatic
    rw [hlent hstatic]
    exact ⟨hstatic, hdns.symm⟩

/-- The configuration of the DHCP client has to be written again. -/
theorem stale_dhclient (hr : cs.Relent cs') (hheld : paths.HeldBy cs h) (hdns : cs'.dns ≠ cs.dns)
    (hdhcp : cs'.hasDhcp = true) :
    h.textAt? paths.dhclientConf ≠ some (NetReconcile.dhclientConf cs'.dns) := by
  rw [hheld.dhclient (hr.hasDhcp_eq.symm.trans hdhcp), ne_eq, Option.some.injEq]
  exact fun h ↦ hdns (dhclientConf_injective h).symm

/-- With other nameservers the files that do not hold their text are those that show them. -/
theorem map_path_stale_eq_refreshed (hr : cs.Relent cs') (hheld : paths.HeldBy cs h)
    (hdns : cs'.dns ≠ cs.dns) :
    (paths.stale h cs').map (·.path) = paths.refreshed h cs' := by
  -- what is rendered has three parts, and which files of a part are stale hangs on that part alone
  have hinterfaces : ((paths.interfaceFiles cs').filter
      fun f ↦ h.textAt? f.path ≠ some f.contents).map (·.path) =
        cs'.statics.map fun c ↦ paths.ifcfg c.device := by
    rw [interfaceFiles, List.filter_map, List.map_map, InterfaceConfigs.statics]
    refine congrArg (List.map _) (List.filter_congr fun c hc ↦ ?_)
    rw [Bool.eq_iff_iff, Bool.not_eq_true', Function.comp_apply, decide_eq_true_iff]
    exact stale_interface_iff hr hheld hdns hc
  have hdhclient : ((paths.dhclientFile? cs').toList.filter
      fun f ↦ h.textAt? f.path ≠ some f.contents).map (·.path) =
        if cs'.hasDhcp then [paths.dhclientConf] else [] := by
    rw [dhclientFile?]
    split
    · rename_i hdhcp
      simp [stale_dhclient hr hheld hdns hdhcp]
    · rfl
  have hresolver : ((paths.resolverFile? cs').toList.filter
      fun f ↦ h.textAt? f.path ≠ some f.contents).map (·.path) =
        if cs'.dns ≠ [] ∧ h.textAt? paths.resolvConf ≠ some (NetReconcile.resolvConf cs'.dns) then
          [paths.resolvConf] else [] := by
    rw [resolverFile?]
    by_cases hnone : cs'.dns = []
    · rw [if_pos (by simpa using hnone), if_neg fun h ↦ h.1 hnone]
      rfl
    · rw [if_neg (by simpa using hnone), Option.toList_some, List.filter_singleton]
      by_cases htext : h.textAt? paths.resolvConf = some (NetReconcile.resolvConf cs'.dns)
      · simp [htext]
      · simp [htext, hnone]
  rw [stale, render, List.filter_append, List.filter_append, List.map_append, List.map_append,
    hinterfaces, hdhclient, hresolver, refreshed]

/-- Where nameservers differ, some file shows it. -/
theorem refreshed_ne_nil (hr : cs.Relent cs') (hdns : cs'.dns ≠ cs.dns) (h : MemoryHost) :
    paths.refreshed h cs' ≠ [] := by
  obtain ⟨c, rest, hconfigs⟩ := List.exists_cons_of_ne_nil (hr.configs_ne_nil hdns)
  have hc : c ∈ cs'.configs := by
    rw [hconfigs]
    exact List.mem_cons_self
  rw [refreshed]
  cases hkind : c.isDhcp with
  | true =>
    have hdhcp : cs'.hasDhcp = true := List.any_eq_true.2 ⟨c, hc, hkind⟩
    simp [hdhcp]
  | false =>
    have hstatic : c ∈ cs'.statics := List.mem_filter.2 ⟨hc, by rw [hkind, Bool.not_false]⟩
    simp [List.ne_nil_of_mem hstatic]

/-- Different files of separate ones are different paths, in either order. -/
theorem Separate.not_same (hs : paths.Separate h cs) {f g : ConfigFile} (hf : f ∈ paths.render cs)
    (hg : g ∈ paths.render cs) (hne : f ≠ g) : f.path.same g.path = false := by
  have : Std.Symm fun f g : ConfigFile ↦ f.path.same g.path = false :=
    ⟨fun f g hfg ↦ by rw [FilePath.same_comm, hfg]⟩
  exact hs.distinct.forall hf hg hne

/-- No file of a dynamic interface is among the files that show nameservers. -/
theorem not_same_of_mem_refreshed (hr : cs.Relent cs') (hheld : paths.HeldBy cs h)
    (hdns : cs'.dns ≠ cs.dns) (hs : paths.Separate h cs') {c : InterfaceConfig} (hc : c ∈ cs'.dhcps)
    {p : FilePath} (hp : p ∈ paths.refreshed h cs') : p.same (paths.ifcfg c.device) = false := by
  rw [← map_path_stale_eq_refreshed hr hheld hdns] at hp
  obtain ⟨f, hf, rfl⟩ := List.mem_map.1 hp
  obtain ⟨hf, hstale⟩ := List.mem_filter.1 hf
  obtain ⟨hc, hdhcp⟩ := List.mem_filter.1 hc
  have hfile : (⟨paths.ifcfg c.device, c.ifcfg⟩ : ConfigFile) ∈ paths.render cs' :=
    paths.mem_render_of_mem_configs hc
  have hne : f ≠ ⟨paths.ifcfg c.device, c.ifcfg⟩ := by
    intro heq
    rw [heq, decide_eq_true_iff, stale_interface_iff hr hheld hdns hc] at hstale
    rw [hstale] at hdhcp
    cases hdhcp
  have hapart := hs.not_same hf hfile hne
  exact hapart

end ConfigPaths

/-! ### Setups -/

namespace NetworkManager

/-- What a setup does to the host `h'` on which another one with other nameservers has taken all its
steps. -/
structure NameserversChanged (m : NetworkManager) (cs cs' : InterfaceConfigs) (h' : MemoryHost)
    (result : Except NetworkError Unit) (h'' : MemoryHost) : Prop where
  /-- If the nameservers of the host are the same, nothing is written and nothing restarted. -/
  same : cs'.dns = cs.dns → h''.writes = h'.writes ∧ ∃ done announcing,
    h''.effects = h'.effects ++ done ++ announcing ∧ (∀ e ∈ done, e.isOnFiles) ∧
      Effect.pathsWritten done = [] ∧ Announces cs' h'.broadcaster result announcing
  /-- If they are others, what shows them is written, followed by one restart. -/
  other : cs'.dns ≠ cs.dns → h''.writes = h'.writes ++ m.paths.refreshed h' cs' ∧
    ∃ done announcing,
      h''.effects = h'.effects ++ done ++ [.run m.restartCommand] ++ announcing ∧
        (∀ e ∈ done, e.isOnFiles) ∧ Effect.pathsWritten done = m.paths.refreshed h' cs' ∧
        Announces cs' h'.broadcaster result announcing
  /-- No file of a dynamic interface is written. -/
  dynamic : cs'.dns ≠ cs.dns → ∀ c ∈ cs'.configs, ∀ detected, c.protocol = .dhcp detected →
    ∀ p ∈ m.paths.refreshed h' cs', p.same (m.paths.ifcfg c.device) = false

section

variable {m : NetworkManager} {h h' h'' : MemoryHost} {cs cs' : InterfaceConfigs}
  {result : Except NetworkError Unit}

/-- After a setup that nothing hindered every file holds its text. -/
theorem Reached.heldBy {events : List Event} {changed : Bool} {announcing : List Effect}
    (hf : h.FaultFree) (hs : m.paths.Separate h cs)
    (hr : Reached m cs events changed announcing h result h') : m.paths.HeldBy cs h' := by
  intro path contents hmem
  rw [← ConfigPaths.files_writeSteps, List.mem_filterMap] at hmem
  obtain ⟨s, hstep, hfile⟩ := hmem
  have hdone := hr.done hf hs s hstep
  cases s with
  | link target path => cases hfile
  | converge file =>
    obtain rfl : file = ⟨path, contents⟩ := Option.some.inj hfile
    exact hdone

/-- Files that were separate from what a setup has left before are so after it, if it has made no
other links than those that they are separate from. -/
theorem Converged.separate (hc : Converged m cs h result h') (hs : m.paths.Separate h cs')
    (hdhcps : cs'.dhcps = cs.dhcps) : m.paths.Separate h' cs' where
  distinct := hs.distinct
  unlinked f hf := by
    rw [hc.otherLinks, hs.unlinked f hf]
    intro c hmem detected hdhcp
    have hc : c ∈ cs'.dhcps := by
      rw [hdhcps, InterfaceConfigs.mem_dhcps_iff]
      exact ⟨hmem, detected, hdhcp⟩
    exact hs.notLink f hf c hc
  notLink := hs.notLink

/-- What a setup does to a host that holds the files of other nameservers. -/
theorem Converged.nameserversChanged (hr : cs.Relent cs') (hheld : m.paths.HeldBy cs h')
    (hs : m.paths.Separate h' cs') (hc : Converged m cs' h' result h'') :
    NameserversChanged m cs cs' h' result h'' := by
  obtain ⟨done, announcing, heffects, hdone, hpaths, hannounces⟩ := hc.effects
  have hwrites := hc.writes
  refine ⟨fun hsame ↦ ?_, fun hother ↦ ?_, fun hother c hmem detected hdhcp p hp ↦
    ConfigPaths.not_same_of_mem_refreshed hr hheld hother hs
      (InterfaceConfigs.mem_dhcps_iff.2 ⟨hmem, detected, hdhcp⟩) hp⟩
  · have hstale : m.paths.stale h' cs' = [] := by
      rw [hr.eq_of_dns_eq hsame]
      exact hheld.stale_eq_nil
    rw [hstale, List.map_nil] at hpaths hwrites
    rw [hstale, if_pos rfl, List.append_nil] at heffects
    exact ⟨hwrites.trans (List.append_nil _), done, announcing, heffects, hdone, hpaths, hannounces⟩
  · have hstale := ConfigPaths.map_path_stale_eq_refreshed hr hheld hother
    have hne : m.paths.stale h' cs' ≠ [] := by
      intro hnil
      rw [hnil, List.map_nil] at hstale
      exact ConfigPaths.refreshed_ne_nil hr hother h' hstale.symm
    rw [hstale] at hpaths hwrites
    rw [if_neg hne] at heffects
    exact ⟨hwrites, done, announcing, heffects, hdone, hpaths, hannounces⟩

end

/-- On a host without faults, a setup whose networks differ from those of the setup before it in
their nameservers only writes what shows nameservers and restarts once, or does neither if the host
has the same nameservers as before. -/
theorem nameserversChanged_setup {m : NetworkManager} {networks networks' : Networks}
    {completion completion' : Completion} {h h' h'' : MemoryHost} {out out' : SetupOutcome}
    {cs cs' : InterfaceConfigs} (hf : h.FaultFree)
    (hn : NetworksCorrespond NetworkSpec.SameButDns networks.entries networks'.entries)
    (hd : derivedConfigs networks h.interfaces = .ok cs)
    (hd' : derivedConfigs networks' h.interfaces = .ok cs') (hs : m.paths.Separate h cs)
    (hs' : m.paths.Separate h cs') (hfirst : m.setup networks completion h = (out, h'))
    (hsecond : m.setup networks' completion' h' = (out', h'')) :
    NameserversChanged m cs cs' h' out'.result h'' := by
  have hends := ends_of_setup_eq hfirst
  have hr := relent_of_derivedConfigs hn hd hd'
  obtain ⟨events, changed, announcing, hreached⟩ := exists_reached_of_ends hf hd hends
  have hsep := (hreached.converged hf hs).separate hs' hr.dhcps_eq
  have hf' : h'.FaultFree := by rw [hends.host_eq]; exact hf
  have hd'' : derivedConfigs networks' h'.interfaces = .ok cs' := by rw [hends.host_eq]; exact hd'
  obtain ⟨events', changed', announcing', hreached'⟩ := exists_reached_of_ends hf' hd''
    (ends_of_setup_eq hsecond)
  exact (hreached'.converged hf' hsep).nameserversChanged hr (hreached.heldBy hf hs) hsep

/-- The networks of `lanAndWan` with another nameserver. -/
def lanAndWanElsewhere : Networks :=
  NameMap.ofList [
    ("lan", {
      ip := some "10.0.0.5", netmask := some "255.255.255.0", dns := ["10.0.0.2"]
      mac := some "AA", default := [.dns] }),
    ("wan", { kind := .dynamic, mac := some "bb" })]

/-- What they are bound to on the host that is half configured. -/
def lanAndWanElsewhereBindings : List Binding :=
  lanAndWanBindings.map fun b ↦
    if b.network = "lan" then { b with spec := { b.spec with dns := ["10.0.0.2"] } } else b

/-- Their configurations. -/
def lanAndWanElsewhereConfigs : InterfaceConfigs where
  configs := lanAndWanConfigs.configs.map (·.lend [.v4 (.ofOctets 10 0 0 2)])
  dns := [.v4 (.ofOctets 10 0 0 2)]

theorem derivedConfigs_lanAndWanElsewhere :
    derivedConfigs lanAndWanElsewhere halfConfigured.interfaces =
      .ok lanAndWanElsewhereConfigs := by
  have hbind : resolveBindings lanAndWanElsewhere (detect halfConfigured.interfaces).1 [] =
      .ok lanAndWanElsewhereBindings [] := rfl
  rw [derivedConfigs, hbind]
  refine deriveConfigs_eq_ok_iff.2 ⟨some "lan", none, rfl, rfl, rfl, ?_⟩
  rw [List.mergeSort_of_pairwise (by decide)]
  exact .cons rfl (.cons rfl .nil)

/-- The host that was half configured, set up twice with different nameservers. -/
theorem nameserversChanged_halfConfigured :
    lanAndWanElsewhereConfigs.dns ≠ lanAndWanConfigs.dns ∧
      NameserversChanged terse lanAndWanConfigs lanAndWanElsewhereConfigs
        (terse.setup lanAndWan .awaited halfConfigured).2
        (terse.setup lanAndWanElsewhere .awaited
          (terse.setup lanAndWan .awaited halfConfigured).2).1.result
        (terse.setup lanAndWanElsewhere .awaited
          (terse.setup lanAndWan .awaited halfConfigured).2).2 := by
  have hn : NetworksCorrespond NetworkSpec.SameButDns lanAndWan.entries
      lanAndWanElsewhere.entries :=
    .cons ⟨rfl, rfl⟩ (.cons ⟨rfl, rfl⟩ .nil)
  have hs : terse.paths.Separate halfConfigured lanAndWanElsewhereConfigs :=
    ⟨by decide +kernel, by decide +kernel, by decide +kernel⟩
  exact ⟨by decide, nameserversChanged_setup faultFree_halfConfigured hn derivedConfigs_lanAndWan
    derivedConfigs_lanAndWanElsewhere separate_lanAndWan hs (Prod.eta _).symm (Prod.eta _).symm⟩

end NetworkManager

end NetReconcile
