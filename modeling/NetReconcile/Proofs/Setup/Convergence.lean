import NetReconcile.Proofs.Derivation.Roles
import NetReconcile.Proofs.Materialize.Convergence
import NetReconcile.Proofs.Setup.Agreement
import NetReconcile.Proofs.Setup.Ends

/-!
# What a setup converges to

On a host on which nothing is arranged to fail a setup whose networks have configurations gets past
writing. If the files of the configurations are different paths, none of which is a link, then every
file holds its text afterwards, only files that did not hold theirs were written, and nothing but
the links of the DHCP client has come to the links. Setting up again then finds all work done.

## Main definitions

* `ConfigPaths.Separate`: files are different paths, and none of them is a link.
* `ConfigPaths.stale`: the files that do not hold their text yet.
* `NetworkManager.Converged`: what a host is like after a setup.

## Main statements

* `NetworkManager.converged_setup`: a setup that nothing hinders makes the host converge.
* `NetworkManager.setup_again`: a second setup has the same result and writes nothing.

## Getting past writing

Everything after writing leaves files and links alone, so what a host is like after a setup is
decided when the files are written. `Reached` says that a setup got that far, and keeps what is
needed of the rest: which host writing left, that the host of the end agrees with it, and what was
added to the record. That a setup gets that far at all is where the absence of failures is used. The
statements about the steps of writing then give those about the setup, field by field.
-/

namespace NetReconcile

open MemoryHost

/-! ### Files that are apart -/

namespace ConfigPaths

/-- The files of a set of configurations are different paths, and none of them is a link of the host
or one of the links that the set needs. -/
structure Separate (paths : ConfigPaths) (h : MemoryHost) (cs : InterfaceConfigs) : Prop where
  distinct : (paths.render cs).Pairwise fun f g ↦ f.path.same g.path = false
  unlinked : ∀ f ∈ paths.render cs, h.links.get? f.path = none
  notLink : ∀ f ∈ paths.render cs, ∀ c ∈ cs.dhcps, (paths.dhclientLink c.device).same f.path = false

/-- The files of a set of configurations that do not hold their text, in the order in which they are
rendered. -/
def stale (paths : ConfigPaths) (h : MemoryHost) (cs : InterfaceConfigs) : List ConfigFile :=
  (paths.render cs).filter fun f ↦ h.textAt? f.path ≠ some f.contents

variable {paths : ConfigPaths} {h : MemoryHost} {cs : InterfaceConfigs}

/-- The steps of separate files do not get in each other's way, whatever has been reported. -/
theorem Separate.apart (hs : paths.Separate h cs) (events : List Event) :
    WriteStep.Apart { h with events := events } (paths.writeSteps cs) := by
  refine ⟨?_, ?_, ?_⟩
  · rw [files_writeSteps]
    exact hs.distinct
  · rw [files_writeSteps]
    exact hs.unlinked
  · rw [files_writeSteps, links_writeSteps]
    intro f hf p hp
    obtain ⟨c, hc, rfl⟩ := List.mem_map.1 hp
    exact hs.notLink f hf c hc

end ConfigPaths

/-! ### Setups that get past writing -/

/-- What a setup may add to the record of effects after its checks: nothing if they failed, and else
a request for announcements and the commands that were sent for it. -/
def Announces (cs : InterfaceConfigs) (broadcaster : Broadcaster) :
    Except NetworkError Unit → List Effect → Prop
  | .error _, announcing => announcing = []
  | .ok (), announcing => ∃ sent : List (List String),
    announcing = .broadcast cs.announcements :: sent.map .run ∧
    (∀ c ∈ sent, ∃ b ∈ cs.announcements, ∃ ip, c = arpingCommand b.interface ip) ∧
    (broadcaster = .recorder → sent = [])

namespace Announces

variable {cs : InterfaceConfigs} {broadcaster : Broadcaster} {announcing : List Effect}

/-- Announcing writes no file. -/
theorem pathsWritten_eq {result : Except NetworkError Unit}
    (ha : Announces cs broadcaster result announcing) : Effect.pathsWritten announcing = [] := by
  cases result with
  | error e => rw [show announcing = [] from ha, Effect.pathsWritten_nil]
  | ok =>
    obtain ⟨sent, rfl, -, -⟩ := ha
    simp [Effect.pathsWritten, Effect.written?]

/-- Only `arping` is run for announcements, and only if somebody makes them. -/
theorem commands_eq {result : Except NetworkError Unit}
    (ha : Announces cs broadcaster result announcing) :
    (∀ c ∈ announcing.filterMap Effect.command?, ∃ interface ip, c = arpingCommand interface ip) ∧
      (broadcaster = .recorder → announcing.filterMap Effect.command? = []) := by
  cases result with
  | error e =>
    rw [show announcing = [] from ha, List.filterMap_nil]
    exact ⟨by simp, fun _ ↦ rfl⟩
  | ok =>
    obtain ⟨sent, rfl, harping, hrecorder⟩ := ha
    have hsent : (Effect.broadcast cs.announcements :: sent.map .run).filterMap Effect.command? =
        sent := by
      rw [List.filterMap_cons_none rfl, List.filterMap_map]
      exact List.filterMap_some
    rw [hsent]
    refine ⟨fun c hc ↦ ?_, hrecorder⟩
    obtain ⟨b, -, ip, rfl⟩ := harping c hc
    exact ⟨b.interface, ip, rfl⟩

end Announces

namespace NetworkManager

/-- The host after all steps of writing, when `events` had been reported before. -/
def afterWriting (m : NetworkManager) (cs : InterfaceConfigs) (events : List Event)
    (h : MemoryHost) : MemoryHost :=
  WriteStep.afterAll { h with events := events } (m.paths.writeSteps cs)

/-- A setup has taken all steps of writing, restarted if one of them wrote a file, and ended with
the result of the checks on the host that it leaves. -/
structure Reached (m : NetworkManager) (cs : InterfaceConfigs) (events : List Event)
    (changed : Bool) (announcing : List Effect) (h : MemoryHost)
    (result : Except NetworkError Unit) (h' : MemoryHost) : Prop where
  write_eq : m.paths.write cs { h with events := events } =
    .ok changed (m.afterWriting cs events h)
  agree : Agree (m.afterWriting cs events h) h'
  effects_eq : h'.effects =
    (m.afterWriting cs events h).effects ++ m.restarts changed ++ announcing
  announces : Announces cs h.broadcaster result announcing
  result_eq : result = match m.checkFault? cs h' with
    | some e => .error e
    | none => .ok ()

section

variable {m : NetworkManager} {networks : Networks} {completion : Completion} {h h' : MemoryHost}
  {out : SetupOutcome} {cs : InterfaceConfigs} {events : List Event} {changed : Bool}
  {announcing : List Effect} {result : Except NetworkError Unit}

/-- Writing succeeds where nothing is arranged to fail. -/
theorem exists_write_eq_afterWriting (m : NetworkManager) (cs : InterfaceConfigs)
    (events : List Event) (hf : h.FaultFree) :
    ∃ changed, m.paths.write cs { h with events := events } =
      .ok changed (m.afterWriting cs events h) := by
  rw [ConfigPaths.write_eq_takeAll]
  exact WriteStep.takeAll_of_faultFree hf

/-- Writing changes files and links only. -/
theorem exists_written_afterWriting (m : NetworkManager) (cs : InterfaceConfigs)
    (events : List Event) (h : MemoryHost) :
    ∃ done, Written done { h with events := events } (m.afterWriting cs events h) :=
  WriteStep.exists_written_afterAll (m.paths.writeSteps cs) { h with events := events }

/-- A setup that gets past writing has derived configurations. -/
theorem exists_derivedConfigs_of_ends (hends : Ends m networks completion h out h')
    (hpast : out.result = .ok () ∨ ∃ target e, out.result = .error (.validation target e)) :
    ∃ cs, derivedConfigs networks h.interfaces = .ok cs := by
  cases hends with
  | undetected hinventory => simp at hpast
  | underived hd => simp at hpast
  | unwritten hd hw => exact ⟨_, hd⟩
  | unconfirmed hd hw hc => exact ⟨_, hd⟩
  | completed hd hw hc ha ho hr => exact ⟨_, hd⟩

/-- Without faults a setup whose networks have configurations gets past writing. -/
theorem exists_reached_of_ends (hf : h.FaultFree)
    (hd : derivedConfigs networks h.interfaces = .ok cs)
    (hends : Ends m networks completion h out h') :
    ∃ events changed announcing, Reached m cs events changed announcing h out.result h' := by
  cases hends with
  | undetected hinventory =>
    rw [hf.faults_eq] at hinventory
    cases hinventory
  | underived hd' =>
    rw [hd] at hd'
    cases hd'
  | @unwritten cs' e events h₁ hd' hw =>
    -- writing cannot fail here, so it cannot have ended the setup
    obtain rfl : cs = cs' := Except.ok.inj (hd.symm.trans hd')
    obtain ⟨changed, hw'⟩ := m.exists_write_eq_afterWriting cs events hf
    rw [hw'] at hw
    cases hw
  | @unconfirmed cs' e events events' changed h₁ hd' hw hc =>
    obtain rfl : cs = cs' := Except.ok.inj (hd.symm.trans hd')
    obtain ⟨changed', hw'⟩ := m.exists_write_eq_afterWriting cs events hf
    obtain ⟨rfl, rfl⟩ : changed' = changed ∧ m.afterWriting cs events h = h₁ := by
      simpa [hw'] using hw
    exact ⟨events, changed', [], {
      write_eq := hw'
      agree := ⟨rfl, rfl, rfl, rfl, rfl⟩
      effects_eq := (List.append_nil _).symm
      announces := rfl
      result_eq := by rw [hc] }⟩
  | @completed cs' events events' changed h₁ h₂ outcome sent hd' hw hc ha ho hr =>
    obtain rfl : cs = cs' := Except.ok.inj (hd.symm.trans hd')
    obtain ⟨changed', hw'⟩ := m.exists_write_eq_afterWriting cs events hf
    obtain ⟨rfl, rfl⟩ : changed' = changed ∧ m.afterWriting cs events h = h₁ := by
      simpa [hw'] using hw
    have hagree := Agree.of_announced ha
    exact ⟨events, changed', .broadcast cs.announcements :: sent.map .run, {
      write_eq := hw'
      agree := ⟨hagree.files_eq, hagree.links_eq, hagree.interfaces_eq, hagree.addresses_eq,
        hagree.faults_eq⟩
      effects_eq := by
        rw [ha.effects_eq]
        simp [record, restarted]
      announces := ⟨sent, rfl, ha.isArping, hr⟩
      result_eq := by rw [m.checkFault?_congr cs hagree, hc] }⟩

/-- The record of a setup: writes and links, the restart that they call for, announcing. -/
theorem Reached.exists_effects_eq (hr : Reached m cs events changed announcing h result h') :
    ∃ done, Written done { h with events := events } (m.afterWriting cs events h) ∧
      (changed = true ↔ Effect.pathsWritten done ≠ []) ∧
      h'.effects = h.effects ++ done ++ m.restarts changed ++ announcing ∧
      h'.writes = h.writes ++ Effect.pathsWritten done := by
  obtain ⟨done, hdone, hchanged⟩ := ConfigPaths.written_of_write_eq_ok hr.write_eq
  have heffects : h'.effects = h.effects ++ done ++ m.restarts changed ++ announcing := by
    rw [hr.effects_eq, hdone.effects_eq]
  have hrestarts : Effect.pathsWritten (m.restarts changed) = [] := by
    cases changed with
    | true => rfl
    | false => rfl
  refine ⟨done, hdone, hchanged, heffects, ?_⟩
  show Effect.pathsWritten h'.effects = Effect.pathsWritten h.effects ++ Effect.pathsWritten done
  rw [heffects, Effect.pathsWritten_append, Effect.pathsWritten_append, Effect.pathsWritten_append,
    hrestarts, hr.announces.pathsWritten_eq, List.append_nil, List.append_nil]

/-! ### One setup -/

/-- What a host is like after a setup that nothing hindered, and what was done to it. -/
structure Converged (m : NetworkManager) (cs : InterfaceConfigs) (h : MemoryHost)
    (result : Except NetworkError Unit) (h' : MemoryHost) : Prop where
  /-- Every file of the configurations holds its text. -/
  files : ∀ f ∈ m.paths.render cs, h'.files.get? f.path = some f.contents
  /-- Every other file is as it was. -/
  otherFiles : ∀ p, (∀ f ∈ m.paths.render cs, f.path.same p = false) →
    h'.files.get? p = h.files.get? p
  /-- The link of every interface by DHCP leads to the configuration of the DHCP client. -/
  links : ∀ c ∈ cs.configs, ∀ detected, c.protocol = .dhcp detected → ∀ p,
    (m.paths.dhclientLink c.device).same p = true → h'.links.get? p = some m.paths.dhclientConf
  /-- Every other link is as it was. -/
  otherLinks : ∀ p, (∀ c ∈ cs.configs, ∀ detected, c.protocol = .dhcp detected →
    (m.paths.dhclientLink c.device).same p = false) → h'.links.get? p = h.links.get? p
  /-- The files that did not hold their text were written, once each and in order. -/
  writes : h'.writes = h.writes ++ (m.paths.stale h cs).map (·.path)
  /-- After all writes there was one restart if a file was written, and none otherwise. -/
  effects : ∃ done announcing,
    h'.effects = h.effects ++ done ++
      (if m.paths.stale h cs = [] then [] else [.run m.restartCommand]) ++ announcing ∧
    (∀ e ∈ done, e.isOnFiles) ∧ Effect.pathsWritten done = (m.paths.stale h cs).map (·.path) ∧
    Announces cs h.broadcaster result announcing

/-- The links after a setup that got past writing: what a path leads to is told by whether it is the
link of an interface by DHCP. -/
theorem Reached.links_eq (hr : Reached m cs events changed announcing h result h')
    (p : FilePath) : h'.links.get? p =
      if ∃ c ∈ cs.dhcps, (m.paths.dhclientLink c.device).same p = true then
        some m.paths.dhclientConf
      else h.links.get? p := by
  have ht : ∀ target path, WriteStep.link target path ∈ m.paths.writeSteps cs →
      target = m.paths.dhclientConf :=
    fun _ _ ↦ ConfigPaths.eq_dhclientConf_of_link_mem
  have hlinks := WriteStep.links_afterAll (h := { h with events := events }) ht p
  simp only [ConfigPaths.links_writeSteps, List.mem_map, exists_exists_and_eq_and] at hlinks
  rw [hr.agree.links_eq]
  exact hlinks

/-- A setup that got past writing has made the host converge, whether or not the checks passed. -/
theorem Reached.converged (hf : h.FaultFree) (hs : m.paths.Separate h cs)
    (hr : Reached m cs events changed announcing h result h') : Converged m cs h result h' := by
  have ha := hs.apart events
  have hf' : FaultFree { h with events := events } := hf
  have hrender := m.paths.files_writeSteps cs
  obtain ⟨done, hdone, hchanged, heffects, hwrites⟩ := hr.exists_effects_eq
  -- `done` is known only as what was added to the record, so it is told from the whole record
  have hpaths : Effect.pathsWritten done = (m.paths.stale h cs).map (·.path) := by
    have hall := WriteStep.writes_afterAll hf' ha
    rw [hrender] at hall
    have hadded : (m.afterWriting cs events h).writes = h.writes ++ Effect.pathsWritten done := by
      rw [writes, hdone.effects_eq]
      exact List.filterMap_append
    exact List.append_cancel_left (hadded.symm.trans hall)
  have hrestarts : m.restarts changed =
      if m.paths.stale h cs = [] then [] else [.run m.restartCommand] := by
    rw [m.restarts_eq hchanged, hpaths]
    simp only [List.map_eq_nil_iff]
  refine ⟨fun f hmem ↦ ?_, fun p hp ↦ ?_, fun c hc detected hdhcp p hp ↦ ?_, fun p hp ↦ ?_,
    by rw [hwrites, hpaths], done, announcing, by rw [heffects, hrestarts], hdone.isOnFiles, hpaths,
    hr.announces⟩
  · rw [hr.agree.files_eq]
    exact WriteStep.files_afterAll_of_mem hf' ha (hrender ▸ hmem)
  · rw [hr.agree.files_eq]
    exact WriteStep.files_afterAll_of_not_same hf' ha (hrender ▸ hp)
  · rw [hr.links_eq, if_pos ⟨c, InterfaceConfigs.mem_dhcps_iff.2 ⟨hc, detected, hdhcp⟩, hp⟩]
  · rw [hr.links_eq, if_neg]
    rintro ⟨c, hmem, hsame⟩
    obtain ⟨hc, detected, hdhcp⟩ := InterfaceConfigs.mem_dhcps_iff.1 hmem
    rw [hp c hc detected hdhcp] at hsame
    cases hsame

/-- A setup that gets past writing succeeds or fails in a check. -/
theorem Reached.ok_or_validation (hr : Reached m cs events changed announcing h result h') :
    result = .ok () ∨ ∃ target e, result = .error (.validation target e) := by
  cases hc : m.checkFault? cs h' with
  | none =>
    left
    rw [hr.result_eq, hc]
  | some e =>
    obtain ⟨target, cause, rfl⟩ := exists_validation_of_checkFault?_eq_some hc
    exact .inr ⟨target, cause, by rw [hr.result_eq, hc]⟩

/-- A setup that nothing hinders succeeds or fails in a check, and in both cases the host has
converged to the configurations of its networks. -/
theorem converged_setup {m : NetworkManager} {networks : Networks} {completion : Completion}
    {h : MemoryHost} {cs : InterfaceConfigs} (hf : h.FaultFree)
    (hd : derivedConfigs networks h.interfaces = .ok cs) (hs : m.paths.Separate h cs) :
    ((m.setup networks completion h).1.result = .ok () ∨
        ∃ target e, (m.setup networks completion h).1.result = .error (.validation target e)) ∧
      Converged m cs h (m.setup networks completion h).1.result
        (m.setup networks completion h).2 := by
  obtain ⟨events, changed, announcing, hr⟩ :=
    exists_reached_of_ends hf hd (m.ends_setup networks completion h)
  exact ⟨hr.ok_or_validation, hr.converged hf hs⟩

/-- A static network with a nameserver, and a network whose address comes by DHCP. -/
def lanAndWan : Networks :=
  NameMap.ofList [
    ("lan", {
      ip := some "10.0.0.5", netmask := some "255.255.255.0", dns := ["10.0.0.1"]
      mac := some "AA", default := [.dns] }),
    ("wan", { kind := .dynamic, mac := some "bb" })]

/-- A host for both networks, whose resolver file is in place already. -/
def halfConfigured : MemoryHost where
  files := [(terse.paths.resolvConf, "nameserver 10.0.0.1\n"), (⟨"/h"⟩, "")]
  links := [(⟨"/l"⟩, ⟨"/h"⟩)]
  interfaces := [⟨"eth0", some "aa", true⟩, ⟨"eth1", some "bb", true⟩]
  addresses := [⟨"eth0", .v4 (.ofOctets 10 0 0 5)⟩]

/-- The configurations of both networks on that host. -/
def lanAndWanConfigs : InterfaceConfigs where
  configs := [
    ⟨"lan", "eth0", .static ⟨.ofOctets 10 0 0 5, .ofOctets 255 255 255 0, .ofOctets 10 0 0 255⟩,
      none, [.v4 (.ofOctets 10 0 0 1)]⟩,
    ⟨"wan", "eth1", .dhcp none, none, []⟩]
  dns := [.v4 (.ofOctets 10 0 0 1)]

theorem faultFree_halfConfigured : halfConfigured.FaultFree :=
  rfl

/-- What both networks are bound to there, in the order of their configurations. -/
def lanAndWanBindings : List Binding := [
  ⟨"lan", {
    ip := some "10.0.0.5", netmask := some "255.255.255.0", dns := ["10.0.0.1"]
    mac := some "AA", default := [.dns] }, "eth0"⟩,
  ⟨"wan", { kind := .dynamic, mac := some "bb" }, "eth1"⟩]

theorem deriveConfigs_lanAndWan : deriveConfigs lanAndWanBindings = .ok lanAndWanConfigs := by
  refine deriveConfigs_eq_ok_iff.2 ⟨some "lan", none, rfl, rfl, rfl, ?_⟩
  rw [List.mergeSort_of_pairwise (by decide)]
  exact .cons rfl (.cons rfl .nil)

theorem derivedConfigs_lanAndWan :
    derivedConfigs lanAndWan halfConfigured.interfaces = .ok lanAndWanConfigs := by
  have hbind : resolveBindings lanAndWan (detect halfConfigured.interfaces).1 [] =
      .ok lanAndWanBindings [] := rfl
  rw [derivedConfigs, hbind]
  exact deriveConfigs_lanAndWan

/-- The files of both networks are different paths, and none of them is a link of the host. -/
theorem separate_lanAndWan : terse.paths.Separate halfConfigured lanAndWanConfigs where
  distinct := by decide +kernel
  unlinked := by decide +kernel
  notLink := by decide +kernel

/-- The host that was half configured converges. -/
theorem converged_halfConfigured :
    Converged terse lanAndWanConfigs halfConfigured
      (terse.setup lanAndWan .awaited halfConfigured).1.result
      (terse.setup lanAndWan .awaited halfConfigured).2 :=
  (converged_setup faultFree_halfConfigured derivedConfigs_lanAndWan separate_lanAndWan).2

/-! ### A second setup -/

/-- After a setup that nothing hindered the work of all steps is done. -/
theorem Reached.done (hf : h.FaultFree) (hs : m.paths.Separate h cs)
    (hr : Reached m cs events changed announcing h result h') :
    ∀ s ∈ m.paths.writeSteps cs, s.Done h' := by
  intro s hmem
  have hf' : FaultFree { h with events := events } := hf
  have hdone : s.Done (m.afterWriting cs events h) :=
    WriteStep.done_afterAll hf' (hs.apart events)
      (fun _ _ ↦ ConfigPaths.eq_dhclientConf_of_link_mem) hmem
  exact hdone.congr hr.agree.files_eq hr.agree.links_eq

/-- A setup that finds all work done changes no file and no link, writes nothing and does not
restart. -/
theorem Reached.of_done (hf : h.FaultFree) (hd : ∀ s ∈ m.paths.writeSteps cs, s.Done h)
    (hr : Reached m cs events changed announcing h result h') :
    h'.files = h.files ∧ h'.links = h.links ∧ h'.writes = h.writes ∧
      ∃ done, (∀ e ∈ done, e.isOnFiles) ∧ h'.effects = h.effects ++ done ++ announcing := by
  have hf' : FaultFree { h with events := events } := hf
  have hd' : ∀ s ∈ m.paths.writeSteps cs, s.Done { h with events := events } :=
    fun s hmem ↦ (hd s hmem).congr rfl rfl
  obtain ⟨done, hall, hfiles, hpaths⟩ := WriteStep.takeAll_of_done hf' hd'
  rw [← ConfigPaths.write_eq_takeAll, hr.write_eq] at hall
  obtain ⟨rfl, hafter⟩ : changed = false ∧
      m.afterWriting cs events h = { h with events := events, effects := h.effects ++ done } := by
    simpa using hall
  refine ⟨?_, ?_, ?_, done, hfiles, ?_⟩
  · rw [hr.agree.files_eq, hafter]
  · rw [hr.agree.links_eq, hafter]
  · obtain ⟨done', hdone', hchanged, -, hwrites⟩ := hr.exists_effects_eq
    have hnil : Effect.pathsWritten done' = [] :=
      Classical.not_not.1 fun hne ↦ Bool.false_ne_true (hchanged.2 hne)
    rw [hwrites, hnil, List.append_nil]
  · rw [hr.effects_eq, hafter]
    exact congrArg (· ++ announcing) (List.append_nil _)

/-- A setup that got past writing can be repeated: the second one has the same result, changes no
file and no link, writes nothing, runs no command but `arping` for the announcements, and asks for
the same announcements. -/
theorem setup_again {m : NetworkManager} {networks : Networks} {completion completion' : Completion}
    {h h' h'' : MemoryHost} {out out' : SetupOutcome} (hf : h.FaultFree)
    (hs : ∀ cs, derivedConfigs networks h.interfaces = .ok cs → m.paths.Separate h cs)
    (hfirst : m.setup networks completion h = (out, h'))
    (hpast : out.result = .ok () ∨ ∃ target e, out.result = .error (.validation target e))
    (hsecond : m.setup networks completion' h' = (out', h'')) :
    out'.result = out.result ∧ h''.writes = h'.writes ∧ h''.files = h'.files ∧
      h''.links = h'.links ∧
      (∃ sent, h''.commands = h'.commands ++ sent ∧
        (∀ c ∈ sent, ∃ interface ip, c = arpingCommand interface ip) ∧
        (h.broadcaster = .recorder → sent = [])) ∧
      (out.result = .ok () → ∃ bindings,
        h'.requests = h.requests ++ [bindings] ∧ h''.requests = h'.requests ++ [bindings]) := by
  have hends : Ends m networks completion h out h' := by
    have hany := m.ends_setup networks completion h
    rwa [hfirst] at hany
  have hends' : Ends m networks completion' h' out' h'' := by
    have hany := m.ends_setup networks completion' h'
    rwa [hsecond] at hany
  have hhost := hends.host_eq
  have hf' : h'.FaultFree := by rw [hhost]; exact hf
  have hb : h'.broadcaster = h.broadcaster := by rw [hhost]
  obtain ⟨cs, hd⟩ := exists_derivedConfigs_of_ends hends hpast
  have hd' : derivedConfigs networks h'.interfaces = .ok cs := by rw [hhost]; exact hd
  obtain ⟨events, changed, announcing, hr⟩ := exists_reached_of_ends hf hd hends
  obtain ⟨events', changed', announcing', hr'⟩ := exists_reached_of_ends hf' hd' hends'
  -- the first setup leaves the work of all steps done, so the second finds nothing to do
  obtain ⟨hfiles, hlinks, hwrites, done, hdone, heffects⟩ := hr'.of_done hf' (hr.done hf (hs cs hd))
  have hagree : Agree h' h'' := by
    have hhost' := hends'.host_eq
    exact ⟨hfiles, hlinks, by rw [hhost'], by rw [hhost'], by rw [hhost']⟩
  have hresult : out'.result = out.result := by
    rw [hr'.result_eq, hr.result_eq, m.checkFault?_congr cs hagree]
  refine ⟨hresult, hwrites, hfiles, hlinks, ⟨announcing'.filterMap Effect.command?, ?_, ?_⟩, ?_⟩
  · rw [commands, heffects, List.filterMap_append, List.filterMap_append,
      Effect.filterMap_command?_of_isOnFiles hdone, List.append_nil]
    rfl
  · rw [← hb]
    exact hr'.announces.commands_eq
  · intro hok
    exact ⟨cs.announcements, hends.requests_eq_of_ok hd hok,
      hends'.requests_eq_of_ok hd' (hresult.trans hok)⟩

/-- The host that was half configured, set up twice. -/
theorem setup_again_halfConfigured :
    (terse.setup lanAndWan .unrequested
        (terse.setup lanAndWan .awaited halfConfigured).2).2.writes =
      (terse.setup lanAndWan .awaited halfConfigured).2.writes := by
  have hs : ∀ cs, derivedConfigs lanAndWan halfConfigured.interfaces = .ok cs →
      terse.paths.Separate halfConfigured cs := by
    intro cs hd
    obtain rfl : lanAndWanConfigs = cs := Except.ok.inj (derivedConfigs_lanAndWan.symm.trans hd)
    exact separate_lanAndWan
  obtain ⟨events, changed, announcing, hr⟩ :=
    exists_reached_of_ends faultFree_halfConfigured derivedConfigs_lanAndWan
      (terse.ends_setup lanAndWan .awaited halfConfigured)
  exact (setup_again faultFree_halfConfigured hs (Prod.eta _).symm hr.ok_or_validation
    (Prod.eta _).symm).2.1

end

end NetworkManager

end NetReconcile
