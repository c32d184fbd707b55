import NetReconcile.Proofs.Nameservers
import NetReconcile.Proofs.Setup.Convergence

/-!
# The check of nameservers after writing

The resolver file is the last file that a setup writes. If its path is no link, and none of the
links of the DHCP client is made there, then it holds what was written for the nameservers even
where other files of the setup have the same path. What was written names exactly these nameservers,
so the check of nameservers passes, and on a host without faults only the check of addresses is left
to fail.

## Main statements

* `ConfigPaths.exists_writeSteps_eq_concat`: the resolver file is written last.
* `NetworkManager.nameserverFault?_afterWriting`: the check of nameservers passes after writing.
* `NetworkManager.nameservers_setup`: resolver files are read back, so a setup hangs on its
  derivation and its addresses alone.

That a resolver file names what it was written for is a fact about texts, and holds of all lists of
addresses (`parseNameservers_resolvConf`). The rest is about the host: which steps come before the
last one does not matter, since a write to the path of the resolver file is undone by the last
write, and links that are made go elsewhere.
-/

namespace NetReconcile

open MemoryHost

/-! ### The resolver file -/

/-- The resolver file is written last, if there are nameservers. -/
theorem ConfigPaths.exists_writeSteps_eq_concat (paths : ConfigPaths) {cs : InterfaceConfigs}
    (hne : cs.dns ≠ []) :
    ∃ ss, paths.writeSteps cs =
      ss ++ [.converge ⟨paths.resolvConf, NetReconcile.resolvConf cs.dns⟩] := by
  have hfile : paths.resolverFile? cs =
      some ⟨paths.resolvConf, NetReconcile.resolvConf cs.dns⟩ := by
    rw [resolverFile?, if_neg (by simpa using hne)]
  refine ⟨(paths.interfaceFiles cs).map .converge ++ paths.dhclientSteps cs, ?_⟩
  rw [writeSteps, hfile]
  rfl

namespace NetworkManager

section

variable {m : NetworkManager} {networks : Networks} {completion : Completion} {h h' : MemoryHost}
  {cs : InterfaceConfigs} {events : List Event} {changed : Bool} {announcing : List Effect}
  {result : Except NetworkError Unit}

theorem faultFree_afterWriting (hf : h.FaultFree) : (m.afterWriting cs events h).FaultFree := by
  have hf' : FaultFree { h with events := events } := hf
  exact WriteStep.faultFree_afterAll hf'

/-- Writing gives the host no address and takes none away. -/
theorem addresses_afterWriting : (m.afterWriting cs events h).addresses = h.addresses := by
  obtain ⟨done, hwritten⟩ := m.exists_written_afterWriting cs events h
  rw [hwritten.host_eq]

/-- After writing, the resolver file holds what was written for the nameservers. -/
theorem textAt?_afterWriting (hf : h.FaultFree) (hlink : h.links.get? m.paths.resolvConf = none)
    (hnot : ∀ c ∈ cs.dhcps, (m.paths.dhclientLink c.device).same m.paths.resolvConf = false)
    (hne : cs.dns ≠ []) :
    (m.afterWriting cs events h).textAt? m.paths.resolvConf = some (resolvConf cs.dns) := by
  have hf' : FaultFree { h with events := events } := hf
  -- the resolver file comes last, so nothing but links can be in the way of what it is to hold
  obtain ⟨ss, hsteps⟩ := m.paths.exists_writeSteps_eq_concat hne
  have htargets : ∀ target path, WriteStep.link target path ∈ ss →
      target = m.paths.dhclientConf := by
    intro target path hmem
    have hmem' : WriteStep.link target path ∈ m.paths.writeSteps cs := by
      rw [hsteps]
      exact List.mem_append_left _ hmem
    exact ConfigPaths.eq_dhclientConf_of_link_mem hmem'
  have hlinks : ∀ p ∈ ss.filterMap WriteStep.link?, p.same m.paths.resolvConf = false := by
    intro p hp
    have hp' : p ∈ (m.paths.writeSteps cs).filterMap WriteStep.link? := by
      rw [hsteps, List.filterMap_append]
      exact List.mem_append_left _ hp
    rw [ConfigPaths.links_writeSteps] at hp'
    obtain ⟨c, hc, rfl⟩ := List.mem_map.1 hp'
    exact hnot c hc
  rw [afterWriting, hsteps]
  exact WriteStep.textAt?_afterAll_concat hf' htargets hlink hlinks

/-- After writing, the check of nameservers passes. -/
theorem nameserverFault?_afterWriting (hf : h.FaultFree)
    (hlink : h.links.get? m.paths.resolvConf = none)
    (hnot : ∀ c ∈ cs.dhcps, (m.paths.dhclientLink c.device).same m.paths.resolvConf = false) :
    nameserverFault? m.paths.resolvConf cs.dns (m.afterWriting cs events h) = none := by
  by_cases hne : cs.dns = []
  · rw [hne]
    rfl
  · have hf' : (m.afterWriting cs events h).FaultFree := faultFree_afterWriting hf
    have hread : (m.afterWriting cs events h).faults.readsOf = [] := by
      rw [hf'.faults_eq]
    have htext : (m.afterWriting cs events h).textAt? m.paths.resolvConf =
        some (resolvConf cs.dns) :=
      textAt?_afterWriting hf hlink hnot hne
    have hmissing : missingNameservers cs.dns (resolvConf cs.dns) = [] := by
      rw [missingNameservers_eq_nil_iff, parseNameservers_resolvConf]
      exact fun _ hserver ↦ hserver
    rw [nameserverFault?, if_neg (by simpa using hne), hread, PathMap.get?_nil, htext]
    dsimp only
    rw [hmissing]

/-! ### Setups -/

/-- Where the check of nameservers passes, a setup that gets past writing hangs on its addresses. -/
theorem Reached.ok_or_staticNetwork (hf : h.FaultFree)
    (hlink : h.links.get? m.paths.resolvConf = none)
    (hnot : ∀ c ∈ cs.dhcps, (m.paths.dhclientLink c.device).same m.paths.resolvConf = false)
    (hr : Reached m cs events changed announcing h result h') :
    (result = .ok () ∧ h.HoldsAddresses cs) ∨
      ∃ e, result = .error (.validation .staticNetwork e) ∧ ¬h.HoldsAddresses cs := by
  have hf' : (m.afterWriting cs events h).FaultFree := faultFree_afterWriting hf
  have hnameservers : nameserverFault? m.paths.resolvConf cs.dns (m.afterWriting cs events h) =
      none :=
    nameserverFault?_afterWriting hf hlink hnot
  have hread : (m.afterWriting cs events h).faults.addresses = none := by
    rw [hf'.faults_eq]
  have haddresses : addressFault? cs (m.afterWriting cs events h) = none ↔
      h.HoldsAddresses cs := by
    rw [addressFault?_eq_none_iff hread, HoldsAddresses, addresses_afterWriting]
    rfl
  have hresult := hr.result_eq
  rw [m.checkFault?_congr cs hr.agree, checkFault?, hnameservers, Option.map_none,
    Option.or_none] at hresult
  cases ha : addressFault? cs (m.afterWriting cs events h) with
  | none =>
    rw [ha] at hresult
    exact .inl ⟨hresult, haddresses.1 ha⟩
  | some e =>
    rw [ha] at hresult
    refine .inr ⟨e, hresult, fun hall ↦ ?_⟩
    rw [haddresses.2 hall] at ha
    cases ha

/-- Where nothing can be derived, that is the result. -/
theorem result_eq_of_derivedConfigs_eq_error {out : SetupOutcome} {e : DerivationError}
    (hf : h.FaultFree) (hd : derivedConfigs networks h.interfaces = .error e)
    (hends : Ends m networks completion h out h') : out.result = .error (.derivation e) := by
  cases hends with
  | undetected hinventory =>
    rw [hf.faults_eq] at hinventory
    cases hinventory
  | underived hd' =>
    rw [hd] at hd'
    cases hd'
    rfl
  | unwritten hd' | unconfirmed hd' | completed hd' =>
    rw [hd] at hd'
    cases hd'

/-- A resolver file names the nameservers for which it is written. On a host without faults, where
the path of that file is no link and is made none, a setup therefore fails neither in writing nor in
the check of nameservers, and succeeds exactly if there are configurations and its address table has
the address of every static one of them, on its device. -/
theorem nameservers_setup :
    (∀ dns, parseNameservers (resolvConf dns) = dns) ∧
    ∀ (m : NetworkManager) (networks : Networks) (completion : Completion) (h : MemoryHost),
      h.FaultFree → h.links.get? m.paths.resolvConf = none →
      (∀ cs, derivedConfigs networks h.interfaces = .ok cs →
        ∀ c ∈ cs.configs, ∀ detected, c.protocol = .dhcp detected →
          (m.paths.dhclientLink c.device).same m.paths.resolvConf = false) →
      (∀ e, (m.setup networks completion h).1.result ≠ .error (.persistence e)) ∧
      (∀ e, (m.setup networks completion h).1.result ≠ .error (.validation .dns e)) ∧
      ((m.setup networks completion h).1.result = .ok () ↔
        ∃ cs, derivedConfigs networks h.interfaces = .ok cs ∧
          ∀ c ∈ cs.configs, ∀ a, c.protocol = .static a →
            ⟨c.device, .v4 a.address⟩ ∈ h.addresses) := by
  refine ⟨parseNameservers_resolvConf, ?_⟩
  intro m networks completion h hf hlink hnot
  have hends := m.ends_setup networks completion h
  cases hd : derivedConfigs networks h.interfaces with
  | error e =>
    have hresult := result_eq_of_derivedConfigs_eq_error hf hd hends
    rw [hresult]
    exact ⟨nofun, nofun, by simp⟩
  | ok cs =>
    obtain ⟨events, changed, announcing, hr⟩ := exists_reached_of_ends hf hd hends
    have hapart : ∀ c ∈ cs.dhcps,
        (m.paths.dhclientLink c.device).same m.paths.resolvConf = false := by
      intro c hc
      obtain ⟨hmem, detected, hdhcp⟩ := InterfaceConfigs.mem_dhcps_iff.1 hc
      exact hnot cs hd c hmem detected hdhcp
    rcases hr.ok_or_staticNetwork hf hlink hapart with ⟨hresult, hholds⟩ | ⟨e, hresult, hholds⟩
    · rw [hresult]
      exact ⟨nofun, nofun, fun _ ↦ ⟨cs, rfl, hholds⟩, fun _ ↦ rfl⟩
    · rw [hresult]
      refine ⟨nofun, nofun, nofun, ?_⟩
      rintro ⟨cs', hd', hall⟩
      obtain rfl : cs = cs' := Except.ok.inj hd'
      exact absurd hall hholds

/-- The host that was half configured holds its address, and its resolver file is no link. -/
theorem nameservers_setup_halfConfigured :
    halfConfigured.FaultFree ∧ halfConfigured.links.get? terse.paths.resolvConf = none ∧
      (∀ c ∈ lanAndWanConfigs.configs,
        (terse.paths.dhclientLink c.device).same terse.paths.resolvConf = false) ∧
      (terse.setup lanAndWan .awaited halfConfigured).1.result = .ok () := by
  have hlink : halfConfigured.links.get? terse.paths.resolvConf = none := by decide +kernel
  have hnot : ∀ c ∈ lanAndWanConfigs.configs,
      (terse.paths.dhclientLink c.device).same terse.paths.resolvConf = false := by
    decide +kernel
  have haddresses : ∀ c ∈ lanAndWanConfigs.configs, ∀ a, c.protocol = .static a →
      ⟨c.device, .v4 a.address⟩ ∈ halfConfigured.addresses := by
    simp [lanAndWanConfigs, halfConfigured]
  have hconfigs : ∀ cs, derivedConfigs lanAndWan halfConfigured.interfaces = .ok cs →
      ∀ c ∈ cs.configs, ∀ detected, c.protocol = .dhcp detected →
        (terse.paths.dhclientLink c.device).same terse.paths.resolvConf = false := by
    intro cs hd c hc _ _
    obtain rfl : lanAndWanConfigs = cs := Except.ok.inj (derivedConfigs_lanAndWan.symm.trans hd)
    exact hnot c hc
  have hiff := (nameservers_setup.2 terse lanAndWan .awaited halfConfigured
    faultFree_halfConfigured hlink hconfigs).2.2
  exact ⟨faultFree_halfConfigured, hlink, hnot,
    hiff.2 ⟨lanAndWanConfigs, derivedConfigs_lanAndWan, haddresses⟩⟩

end

end NetworkManager

end NetReconcile
