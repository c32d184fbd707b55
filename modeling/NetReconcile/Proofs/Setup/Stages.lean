import NetReconcile.Proofs.Announce.InMemory

/-!
# The stages of a setup on a host in memory

On a host in memory it can be said of every stage of a setup when it fails, with which error, and
what it changes. Detecting and deriving report events and change nothing else; writing changes files
and links; checking changes nothing at all; announcing runs commands and changes neither.

## Main definitions

* `derivedConfigs`: what networks come to on an inventory.
* `NetworkManager.restarts`: the restart that writing calls for.
* `addressFault?`, `nameserverFault?`, `NetworkManager.checkFault?`: why the checks fail, if they
  do.
* `MemoryHost.HoldsAddresses`: a host has come to hold the static addresses of its configurations.
* `broadcastOutcome`: what there is to deliver, by what the broadcaster answers.

## Main statements

* `exists_configsFor_eq`: what detecting and deriving come to.
* `NetworkManager.exists_install_eq`, `NetworkManager.exists_restarted_eq`: what writing and
  restarting come to.
* `NetworkManager.check_eq`: the checks change nothing.
* `addressFault?_eq_none_iff`: the check of addresses passes exactly where they are all held.
* `exists_announceAfter_eq`: what announcing comes to, and what is delivered of it.

## One statement per stage

For each stage there is one equation or one statement of what it leaves, and a function that says
when it fails (`derivedConfigs`, `addressFault?`, `nameserverFault?`, `checkFault?`). Statements
about setups are put together from these, and never look into a stage again. Events are kept under
an existential quantifier: which ones are reported is of no consequence for what comes later.
-/

namespace NetReconcile

open MemoryHost

/-- What networks come to on an inventory: their configurations, or why there are none. -/
def derivedConfigs (networks : Networks) (interfaces : List Interface) :
    Except DerivationError InterfaceConfigs :=
  match resolveBindings networks (detect interfaces).1 [] with
  | .ok bindings _ => deriveConfigs bindings
  | .error e _ => .error e

/-! ### Detecting and deriving -/

namespace MemoryHost

/-- Reporting adds to the record of events, in order. -/
theorem reportAll_eq (events : List Event) (h : MemoryHost) :
    reportAll events h = { h with events := h.events ++ events } := by
  induction events generalizing h with
  | nil => simp [reportAll]
  | cons e events ih =>
    show reportAll events { h with events := h.events ++ [e] } = _
    rw [ih]
    simp

/-- The inventory is read or its failure is arranged for. -/
theorem interfaces_eq (h : MemoryHost) :
    (Host.interfaces : HostM MemoryHost (List Interface)) h =
      match h.faults.inventory with
      | some message => .error (.reported message) h
      | none => .ok h.interfaces h := by
  show EStateM.bind (failIf h.faults.inventory) _ h = _
  cases h.faults.inventory with
  | some message => rfl
  | none => rfl

/-- The address table is read or its failure is arranged for. -/
theorem addresses_eq (h : MemoryHost) :
    (Host.addresses : HostM MemoryHost (List HostAddress)) h =
      match h.faults.addresses with
      | some message => .error (.reported message) h
      | none => .ok h.addresses h := by
  show EStateM.bind (failIf h.faults.addresses) _ h = _
  cases h.faults.addresses with
  | some message => rfl
  | none => rfl

end MemoryHost

section

variable {h : MemoryHost}

/-- A host whose inventory cannot be read is left as it is. -/
theorem configsFor_of_fault (networks : Networks) {message : String}
    (hf : h.faults.inventory = some message) :
    configsFor networks h = .error (.discovery (.reported message)) h := by
  have hi : (Host.interfaces : HostM MemoryHost (List Interface)) h =
      .error (.reported message) h := by
    rw [interfaces_eq, hf]
  have hd : (detectHardware : HostM MemoryHost MacTable) h = .error (.reported message) h :=
    bind_of_error hi
  exact bind_of_error (stage_of_error hd)

/-- Binding reports the networks that are skipped, also where it fails. -/
theorem bindNetworks_eq (networks : Networks) (table : MacTable) (h : MemoryHost) :
    bindNetworks networks table h = match resolveBindings networks table [] with
      | .ok bindings events => .ok bindings { h with events := h.events ++ events }
      | .error e events => .error (.derivation e) { h with events := h.events ++ events } := by
  unfold bindNetworks
  cases resolveBindings networks table [] with
  | ok bindings events => simp only [reportAll_eq]
  | error e events => simp only [reportAll_eq]

/-- Detecting reports hardware addresses that occur twice. -/
theorem detectHardware_eq (hf : h.faults.inventory = none) :
    (detectHardware : HostM MemoryHost MacTable) h =
      .ok (detect h.interfaces).1 { h with events := h.events ++ (detect h.interfaces).2 } := by
  have hi : (Host.interfaces : HostM MemoryHost (List Interface)) h = .ok h.interfaces h := by
    rw [interfaces_eq, hf]
  rw [detectHardware, bind_of_ok hi, ← reportAll_eq]
  rfl

/-- Without a fault in the inventory, only events are reported before a configuration is derived or
found impossible. -/
theorem exists_configsFor_eq (networks : Networks) (hf : h.faults.inventory = none) :
    ∃ events, configsFor networks h = match derivedConfigs networks h.interfaces with
      | .ok cs => .ok cs { h with events := events }
      | .error e => .error (.derivation e) { h with events := events } := by
  have hd := detectHardware_eq hf
  have hb := bindNetworks_eq networks (detect h.interfaces).1
    { h with events := h.events ++ (detect h.interfaces).2 }
  rw [derivedConfigs]
  cases hr : resolveBindings networks (detect h.interfaces).1 [] with
  | error e skipped =>
    rw [hr] at hb
    exact ⟨_, (bind_of_ok (stage_of_ok hd)).trans (bind_of_error hb)⟩
  | ok bindings skipped =>
    rw [hr] at hb
    refine ⟨h.events ++ (detect h.interfaces).2 ++ skipped, ?_⟩
    rw [configsFor, bind_of_ok (stage_of_ok hd), bind_of_ok hb, derive]
    dsimp only
    cases deriveConfigs bindings with
    | ok cs => rfl
    | error e => rfl

end

/-! ### Writing and restarting -/

namespace NetworkManager

/-- The restart that writing calls for: one if a file was written. -/
def restarts (m : NetworkManager) (changed : Bool) : List Effect :=
  if changed then [.run m.restartCommand] else []

/-- The host after writing, when the restart that it calls for has been tried. -/
def restarted (m : NetworkManager) (changed : Bool) (events : List Event) (h : MemoryHost) :
    MemoryHost :=
  { h with effects := h.effects ++ m.restarts changed, events := events }

section

variable {m : NetworkManager} {cs : InterfaceConfigs} {h h' : MemoryHost}

/-- The restart that writing calls for can be told from the record. -/
theorem restarts_eq (m : NetworkManager) {changed : Bool} {done : List Effect}
    (hchanged : changed = true ↔ Effect.pathsWritten done ≠ []) :
    m.restarts changed =
      if Effect.pathsWritten done = [] then [] else [.run m.restartCommand] := by
  cases changed with
  | true => rw [if_neg (hchanged.1 rfl)]; rfl
  | false =>
    have hnil : Effect.pathsWritten done = [] :=
      Classical.not_not.1 fun hne ↦ Bool.false_ne_true (hchanged.2 hne)
    rw [if_pos hnil]
    rfl

/-- A restart that fails leaves the host as one that succeeds, but for the report. -/
theorem exists_restart_eq (m : NetworkManager) (h : MemoryHost) :
    ∃ events, m.restart h = m.restarted true events h := by
  have hrun := run_eq m.restartCommand (Station.report (.restarting m.restartCommand) h)
  unfold restart
  cases hf : commandFault? (Station.report (.restarting m.restartCommand) h).faults
      m.restartCommand with
  | some message =>
    rw [hf] at hrun
    rw [hrun]
    exact ⟨_, rfl⟩
  | none =>
    rw [hf] at hrun
    rw [hrun]
    exact ⟨_, rfl⟩

/-- When writing fails, no restart is tried. -/
theorem install_of_error {e : HostError} (hw : m.paths.write cs h = .error e h') :
    m.install cs h = .error (.persistence e) h' :=
  bind_of_error (stage_of_error hw)

/-- When all files are in place, the service is restarted if one of them was written. -/
theorem exists_install_eq {changed : Bool} (hw : m.paths.write cs h = .ok changed h') :
    ∃ events, m.install cs h = .ok () (m.restarted changed events h') := by
  have hinstall : m.install cs h =
      .ok () ((if changed then m.restart else Station.report .unchanged) h') :=
    bind_of_ok (stage_of_ok hw)
  rw [hinstall]
  cases changed with
  | true =>
    obtain ⟨events, heq⟩ := m.exists_restart_eq h'
    exact ⟨events, congrArg (EStateM.Result.ok ()) heq⟩
  | false =>
    -- no restart adds the empty list to the record, which `restarted` still spells out
    refine ⟨h'.events ++ [.unchanged], congrArg (EStateM.Result.ok ()) ?_⟩
    show _ = { h' with effects := h'.effects ++ [], events := h'.events ++ [Event.unchanged] }
    rw [List.append_nil]
    rfl

/-- Writing and the restart that it calls for change files, links and records only. What is done to
files and links comes first in the record. -/
theorem exists_restarted_eq {changed : Bool} {events : List Event}
    (hw : m.paths.write cs { h with events := events } = .ok changed h') :
    ∃ done, (∀ e ∈ done, e.isOnFiles) ∧ ∀ events', m.restarted changed events' h' =
      { h with
        files := h'.files, links := h'.links
        effects := h.effects ++ done ++
          if Effect.pathsWritten done = [] then [] else [.run m.restartCommand]
        events := events' } := by
  obtain ⟨done, hwritten, hchanged⟩ := ConfigPaths.written_of_write_eq_ok hw
  refine ⟨done, hwritten.isOnFiles, fun events' ↦ ?_⟩
  rw [restarted, m.restarts_eq hchanged, hwritten.host_eq]

end

end NetworkManager

/-! ### Checking -/

/-- Why the check of addresses fails, if it does. -/
def addressFault? (cs : InterfaceConfigs) (h : MemoryHost) : Option HostError :=
  if cs.staticAddresses.isEmpty then none
  else
    match h.faults.addresses with
    | some message => some (.during .readAddressTable (.reported message))
    | none =>
      match missingAddresses cs.staticAddresses h.addresses with
      | [] => none
      | missing => some (.missingAddresses missing)

/-- Why the check of nameservers fails, if it does. -/
def nameserverFault? (resolvConf : FilePath) (expected : List IpAddress) (h : MemoryHost) :
    Option HostError :=
  if expected.isEmpty then none
  else
    match h.faults.readsOf.get? resolvConf with
    | some message => some (.during (.readFile resolvConf) (.reported message))
    | none =>
      match h.textAt? resolvConf with
      | none => some (.missingFile resolvConf)
      | some contents =>
        match missingNameservers expected contents with
        | [] => none
        | missing => some (.missingNameservers missing resolvConf)

/-- The check of addresses leaves the host alone, and fails for the reason that `addressFault?`
gives. -/
theorem checkAddresses_eq (cs : InterfaceConfigs) (h : MemoryHost) :
    checkAddresses cs h = match addressFault? cs h with
      | some e => .error e h
      | none => .ok () h := by
  have haddresses := addresses_eq h
  unfold checkAddresses addressFault?
  split
  · rfl
  · cases hf : h.faults.addresses with
    | some message =>
      rw [hf] at haddresses
      exact bind_of_error (within_of_error haddresses)
    | none =>
      rw [hf] at haddresses
      refine (bind_of_ok (within_of_ok haddresses)).trans ?_
      cases missingAddresses cs.staticAddresses h.addresses with
      | nil => rfl
      | cons a missing => rfl

/-- The check of nameservers leaves the host alone, and fails for the reason that `nameserverFault?`
gives. -/
theorem checkNameservers_eq (resolvConf : FilePath) (expected : List IpAddress) (h : MemoryHost) :
    checkNameservers resolvConf expected h = match nameserverFault? resolvConf expected h with
      | some e => .error e h
      | none => .ok () h := by
  have hread := read_eq resolvConf h
  unfold checkNameservers nameserverFault?
  split
  · rfl
  · cases hf : h.faults.readsOf.get? resolvConf with
    | some message =>
      rw [hf] at hread
      exact bind_of_error (within_of_error hread)
    | none =>
      rw [hf] at hread
      refine (bind_of_ok (within_of_ok hread)).trans ?_
      cases h.textAt? resolvConf with
      | none => rfl
      | some contents =>
        dsimp only
        cases missingNameservers expected contents with
        | nil => rfl
        | cons a missing => rfl

namespace NetworkManager

/-- Why the checks fail, if they do. Nameservers are checked only if the addresses are there. -/
def checkFault? (m : NetworkManager) (cs : InterfaceConfigs) (h : MemoryHost) :
    Option NetworkError :=
  ((addressFault? cs h).map (.validation .staticNetwork)).or
    ((nameserverFault? m.paths.resolvConf cs.dns h).map (.validation .dns))

/-- The checks change nothing, not even the record of events. -/
theorem check_eq (m : NetworkManager) (cs : InterfaceConfigs) (h : MemoryHost) :
    m.check cs h = match m.checkFault? cs h with
      | some e => .error e h
      | none => .ok () h := by
  have haddresses := checkAddresses_eq cs h
  have hnameservers := checkNameservers_eq m.paths.resolvConf cs.dns h
  unfold check checkFault?
  cases ha : addressFault? cs h with
  | some e =>
    rw [ha] at haddresses
    exact bind_of_error (stage_of_error haddresses)
  | none =>
    rw [ha] at haddresses
    refine (bind_of_ok (stage_of_ok haddresses)).trans ?_
    cases hn : nameserverFault? m.paths.resolvConf cs.dns h with
    | some e =>
      rw [hn] at hnameservers
      exact stage_of_error hnameservers
    | none =>
      rw [hn] at hnameservers
      exact stage_of_ok hnameservers

end NetworkManager

/-! ### What checks that pass say -/

/-- The address table of a host has the address of every static configuration, on its device. -/
def MemoryHost.HoldsAddresses (h : MemoryHost) (cs : InterfaceConfigs) : Prop :=
  ∀ c ∈ cs.configs, ∀ a, c.protocol = .static a → ⟨c.device, .v4 a.address⟩ ∈ h.addresses

/-- No expected address is missing exactly if the table has all static addresses. -/
theorem missingAddresses_eq_nil_iff {cs : InterfaceConfigs} {h : MemoryHost} :
    missingAddresses cs.staticAddresses h.addresses = [] ↔ h.HoldsAddresses cs := by
  simp only [missingAddresses, List.filter_eq_nil_iff, Prod.forall, decide_eq_true_eq,
    Classical.not_not, InterfaceConfigs.mem_staticAddresses_iff]
  constructor
  · intro hall c hc a ha
    exact hall c.device a.address ⟨c, hc, a, ha, rfl, rfl⟩
  · rintro hholds _ _ ⟨c, hc, a, ha, rfl, rfl⟩
    exact hholds c hc a ha

/-- No expected nameserver is missing exactly if the contents name all of them. -/
theorem missingNameservers_eq_nil_iff {expected : List IpAddress} {contents : String} :
    missingNameservers expected contents = [] ↔
      ∀ server ∈ expected, server ∈ parseNameservers contents := by
  simp [missingNameservers, List.filter_eq_nil_iff]

section

variable {cs : InterfaceConfigs} {h : MemoryHost}

/-- When the check of addresses passes, the host holds all of them. -/
theorem holdsAddresses_of_addressFault?_eq_none (hc : addressFault? cs h = none) :
    h.HoldsAddresses cs := by
  rw [← missingAddresses_eq_nil_iff]
  unfold addressFault? at hc
  split at hc
  · -- the table is not read where nothing is expected of it, so nothing can be missing
    rename_i hempty
    rw [List.isEmpty_iff.1 hempty]
    rfl
  · split at hc
    · cases hc
    · split at hc
      · rename_i hmissing
        exact hmissing
      · cases hc

/-- If the address table can be read, its check passes exactly if the host holds all addresses. -/
theorem addressFault?_eq_none_iff (hread : h.faults.addresses = none) :
    addressFault? cs h = none ↔ h.HoldsAddresses cs := by
  constructor
  · exact holdsAddresses_of_addressFault?_eq_none
  · intro hholds
    have hmissing := missingAddresses_eq_nil_iff.2 hholds
    rw [addressFault?, hread]
    split
    · rfl
    · dsimp only
      rw [hmissing]

/-- When the check of nameservers passes, the resolver file can be read and names all of them. -/
theorem exists_read_of_nameserverFault?_eq_none {resolvConf : FilePath}
    {expected : List IpAddress} (hc : nameserverFault? resolvConf expected h = none)
    (hne : expected ≠ []) :
    ∃ contents,
      (FileStore.read resolvConf : HostM MemoryHost (Option String)) h = .ok (some contents) h ∧
      ∀ server ∈ expected, server ∈ parseNameservers contents := by
  unfold nameserverFault? at hc
  rw [if_neg (by simpa using hne)] at hc
  split at hc
  · cases hc
  · rename_i hread
    split at hc
    · cases hc
    · rename_i contents htext
      split at hc
      · rename_i hmissing
        exact ⟨contents, by rw [read_eq, hread, htext], missingNameservers_eq_nil_iff.1 hmissing⟩
      · cases hc

namespace NetworkManager

variable {m : NetworkManager}

/-- The checks fail with errors of validation only. -/
theorem exists_validation_of_checkFault?_eq_some {e : NetworkError}
    (hc : m.checkFault? cs h = some e) : ∃ target cause, e = .validation target cause := by
  unfold checkFault? at hc
  cases ha : addressFault? cs h with
  | some cause =>
    rw [ha] at hc
    exact ⟨.staticNetwork, cause, (Option.some.inj hc).symm⟩
  | none =>
    rw [ha] at hc
    cases hn : nameserverFault? m.paths.resolvConf cs.dns h with
    | some cause =>
      rw [hn] at hc
      exact ⟨.dns, cause, (Option.some.inj hc).symm⟩
    | none =>
      rw [hn] at hc
      cases hc

/-- Both checks pass or there is a reason why not. -/
theorem checkFault?_eq_none_iff :
    m.checkFault? cs h = none ↔
      addressFault? cs h = none ∧ nameserverFault? m.paths.resolvConf cs.dns h = none := by
  rw [checkFault?, Option.or_eq_none_iff, Option.map_eq_none_iff, Option.map_eq_none_iff]

end NetworkManager

end

/-! ### Announcing -/

/-- What there is to deliver when a broadcaster has answered: its success, or its error as an error
of announcing. -/
def broadcastOutcome : EStateM.Result HostError MemoryHost Unit → Except NetworkError Unit
  | .ok () _ => .ok ()
  | .error e _ => .error (.broadcast e)

/-- There is always something to deliver. -/
theorem broadcastOutcome_eq (answer : EStateM.Result HostError MemoryHost Unit) :
    broadcastOutcome answer = .ok () ∨ ∃ e, broadcastOutcome answer = .error (.broadcast e) := by
  cases answer with
  | ok a h => exact .inl rfl
  | error e h => exact .inr ⟨e, rfl⟩

/-- A broadcaster that only records its calls answers with the failure that is arranged for it. -/
theorem broadcastOutcome_of_recorder (bindings : List AddressBinding) {h : MemoryHost}
    (hb : h.broadcaster = .recorder) :
    broadcastOutcome (Host.broadcast bindings h) =
      match h.faults.broadcast with
      | some message => .error (.broadcast (.reported message))
      | none => .ok () := by
  rw [broadcast_eq, hb]
  dsimp only
  cases h.faults.broadcast with
  | some message => rfl
  | none => rfl

/-- The outcome of the announcements that somebody receives. -/
def Completion.received {α : Type} (outcome : α) : Completion → Option α
  | awaited => some outcome
  | unrequested | abandoned => none

/-- Announcing adds the request to the record, and then nothing but the commands that were sent.
Whoever waits receives what the broadcaster answered. -/
theorem exists_announceAfter_eq (bindings : List AddressBinding) (completion : Completion)
    (h : MemoryHost) :
    ∃ sent h',
      NetworkManager.announceAfter bindings completion h =
        (completion.received (broadcastOutcome (Host.broadcast bindings h)), h') ∧
      Announced bindings sent (record (.broadcast bindings) h) h' ∧
      (h.broadcaster = .recorder → sent = []) := by
  obtain ⟨sent, ⟨h', hrun, hsent⟩ | ⟨e, h', hrun, hsent⟩, hrecorder⟩ :=
    announced_broadcast bindings h
  · unfold NetworkManager.announceAfter
    rw [stage_of_ok hrun, hrun]
    cases completion with
    | awaited => exact ⟨sent, h', rfl, hsent, hrecorder⟩
    | unrequested => exact ⟨sent, h', rfl, hsent, hrecorder⟩
    -- an outcome that nobody takes is reported instead
    | abandoned => exact ⟨sent, _, rfl, hsent.report _, hrecorder⟩
  · unfold NetworkManager.announceAfter
    rw [stage_of_error hrun, hrun]
    cases completion with
    | awaited => exact ⟨sent, h', rfl, hsent, hrecorder⟩
    -- and so is a failure that nobody asked about
    | unrequested => exact ⟨sent, _, rfl, hsent.report _, hrecorder⟩
    | abandoned => exact ⟨sent, _, rfl, hsent.report _, hrecorder⟩

end NetReconcile
