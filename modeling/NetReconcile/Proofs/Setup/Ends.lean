import NetReconcile.Proofs.Setup.Stages

/-!
# How a setup ends

A setup goes through its stages until one of them fails. `NetworkManager.Ends` has one case for
every way in which that can end on a host in memory, and `NetworkManager.ends_setup` says that there
are no others. What holds of every setup is shown by cases on how it ends.

## Main definitions

* `NetworkManager.Ends`: how a setup ends.
* `NetworkManager.Records`: what a setup adds to the record of effects, by its result.

## Main statements

* `NetworkManager.ends_setup`: a setup ends in one of the ways that `Ends` lists.
* `NetworkManager.Ends.host_eq`: whatever happens, only files, links and records change.
* `NetworkManager.Ends.exists_records`: the record grows by what `Records` says.

## Ends and records

`Ends` names the hosts in between: the one that writing was run on, the one that it left, the one on
which the checks passed. `Records` forgets them, and keeps what the result tells of the record of
effects. Statements about the order of effects use `Records`; statements about what a host holds, or
about what was delivered, use `Ends`.
-/

namespace NetReconcile

open MemoryHost

/-! ### All stages -/

namespace NetworkManager

/-- How a setup ends, with a case for every way in which it can. -/
inductive Ends (m : NetworkManager) (networks : Networks) (completion : Completion)
    (h : MemoryHost) : SetupOutcome → MemoryHost → Prop
  /-- The inventory cannot be read. -/
  | undetected {message : String} (hf : h.faults.inventory = some message) :
    Ends m networks completion h ⟨.error (.discovery (.reported message)), none⟩ h
  /-- No configuration can be derived. -/
  | underived {e : DerivationError} {events : List Event}
      (hd : derivedConfigs networks h.interfaces = .error e) :
    Ends m networks completion h ⟨.error (.derivation e), none⟩ { h with events := events }
  /-- A file cannot be written, or a link cannot be made. -/
  | unwritten {cs : InterfaceConfigs} {e : HostError} {events : List Event} {h' : MemoryHost}
      (hd : derivedConfigs networks h.interfaces = .ok cs)
      (hw : m.paths.write cs { h with events := events } = .error e h') :
    Ends m networks completion h ⟨.error (.persistence e), none⟩ h'
  /-- The host has not come to hold its configuration. -/
  | unconfirmed {cs : InterfaceConfigs} {e : NetworkError} {events events' : List Event}
      {changed : Bool} {h' : MemoryHost} (hd : derivedConfigs networks h.interfaces = .ok cs)
      (hw : m.paths.write cs { h with events := events } = .ok changed h')
      (hc : m.checkFault? cs (m.restarted changed events' h') = some e) :
    Ends m networks completion h ⟨.error e, none⟩ (m.restarted changed events' h')
  /-- The setup succeeds, and addresses are announced. -/
  | completed {cs : InterfaceConfigs} {events events' : List Event} {changed : Bool}
      {h' h'' : MemoryHost} {outcome : Except NetworkError Unit} {sent : List (List String)}
      (hd : derivedConfigs networks h.interfaces = .ok cs)
      (hw : m.paths.write cs { h with events := events } = .ok changed h')
      (hc : m.checkFault? cs (m.restarted changed events' h') = none)
      (ha : Announced cs.announcements sent
        (record (.broadcast cs.announcements) (m.restarted changed events' h')) h'')
      (ho : outcome = broadcastOutcome
        (Host.broadcast cs.announcements (m.restarted changed events' h')))
      (hr : h.broadcaster = .recorder → sent = []) :
    Ends m networks completion h ⟨.ok (), completion.received outcome⟩ h''

section

variable {m : NetworkManager} {networks : Networks} {h h' : MemoryHost}

/-- An error before the announcements is the result, and nothing is delivered. -/
theorem setup_of_error (completion : Completion) {e : NetworkError}
    (hrun : m.reconcile networks h = .error e h') :
    m.setup networks completion h = (⟨.error e, none⟩, h') := by
  rw [setup, hrun]

/-- If all stages before the announcements succeed, so does the setup, whatever is delivered of
them. -/
theorem setup_of_ok {completion : Completion} {bindings : List AddressBinding}
    {delivered : Option (Except NetworkError Unit)} {h'' : MemoryHost}
    (hrun : m.reconcile networks h = .ok bindings h')
    (hann : announceAfter bindings completion h' = (delivered, h'')) :
    m.setup networks completion h = (⟨.ok (), delivered⟩, h'') := by
  rw [setup, hrun]
  dsimp only
  rw [hann]

/-- There are no other ways for a setup to end. -/
theorem ends_setup (m : NetworkManager) (networks : Networks) (completion : Completion)
    (h : MemoryHost) :
    Ends m networks completion h (m.setup networks completion h).1
      (m.setup networks completion h).2 := by
  cases hf : h.faults.inventory with
  | some message =>
    rw [setup_of_error completion (bind_of_error (configsFor_of_fault networks hf))]
    exact .undetected hf
  | none =>
    obtain ⟨events, hconfigs⟩ := exists_configsFor_eq networks hf
    cases hd : derivedConfigs networks h.interfaces with
    | error e =>
      rw [hd] at hconfigs
      rw [setup_of_error completion (bind_of_error hconfigs)]
      exact .underived hd
    | ok cs =>
      rw [hd] at hconfigs
      cases hw : m.paths.write cs { h with events := events } with
      | error e h' =>
        have hrun : m.reconcile networks h = .error (.persistence e) h' :=
          (bind_of_ok hconfigs).trans (bind_of_error (install_of_error hw))
        rw [setup_of_error completion hrun]
        exact .unwritten hd hw
      | ok changed h' =>
        -- the checks are made on the host as the restart leaves it, whether or not it worked
        obtain ⟨events', hinstall⟩ := exists_install_eq hw
        have hcheck := m.check_eq cs (m.restarted changed events' h')
        cases hc : m.checkFault? cs (m.restarted changed events' h') with
        | some e =>
          rw [hc] at hcheck
          have hrun : m.reconcile networks h = .error e (m.restarted changed events' h') :=
            (bind_of_ok hconfigs).trans ((bind_of_ok hinstall).trans (bind_of_error hcheck))
          rw [setup_of_error completion hrun]
          exact .unconfirmed hd hw hc
        | none =>
          rw [hc] at hcheck
          have hrun : m.reconcile networks h =
              .ok cs.announcements (m.restarted changed events' h') :=
            (bind_of_ok hconfigs).trans ((bind_of_ok hinstall).trans (bind_of_ok hcheck))
          obtain ⟨sent, h'', hann, hsent, hrecorder⟩ :=
            exists_announceAfter_eq cs.announcements completion (m.restarted changed events' h')
          have hb : (m.restarted changed events' h').broadcaster = h.broadcaster := by
            obtain ⟨done, -, hrestarted⟩ := exists_restarted_eq hw
            rw [hrestarted]
          rw [setup_of_ok hrun hann]
          exact .completed hd hw hc hsent rfl (hb ▸ hrecorder)

theorem ends_of_setup_eq {completion : Completion} {out : SetupOutcome}
    (hrun : m.setup networks completion h = (out, h')) : Ends m networks completion h out h' := by
  have hends := m.ends_setup networks completion h
  rwa [hrun] at hends

/-- A setup changes files and links, and adds to what is recorded; all else stays as it is. -/
theorem Ends.host_eq {completion : Completion} {out : SetupOutcome}
    (hends : Ends m networks completion h out h') :
    h' = { h with
      files := h'.files, links := h'.links, appearing := h'.appearing, effects := h'.effects,
      lookups := h'.lookups, polls := h'.polls, pauses := h'.pauses, events := h'.events } := by
  cases hends with
  | undetected hf => rfl
  | underived hd => rfl
  | unwritten hd hw =>
    obtain ⟨done, hwritten⟩ := ConfigPaths.written_of_write_eq_error hw
    rw [hwritten.host_eq]
  | unconfirmed hd hw hc =>
    obtain ⟨done, -, hrestarted⟩ := exists_restarted_eq hw
    rw [hrestarted]
  | completed hd hw hc ha ho hr =>
    obtain ⟨done, -, hrestarted⟩ := exists_restarted_eq hw
    rw [ha.host_eq, hrestarted]
    rfl

/-! ### The record of a setup -/

/-- What a setup adds to the record of effects, by the result with which it ends. -/
inductive Records (m : NetworkManager) (networks : Networks) (h : MemoryHost) :
    Except NetworkError Unit → List Effect → Prop
  | undetected {e : HostError} : Records m networks h (.error (.discovery e)) []
  | underived {e : DerivationError} : Records m networks h (.error (.derivation e)) []
  /-- What was written before the failure stays. -/
  | unwritten {e : HostError} {done : List Effect} (hdone : ∀ e ∈ done, e.isOnFiles) :
    Records m networks h (.error (.persistence e)) done
  /-- A restart comes after all writes, if there are any. -/
  | unconfirmed {target : ValidationTarget} {e : HostError} {done : List Effect}
      (hdone : ∀ e ∈ done, e.isOnFiles) :
    Records m networks h (.error (.validation target e))
      (done ++ if Effect.pathsWritten done = [] then [] else [.run m.restartCommand])
  /-- The request for announcements comes last, but for the commands that are sent for it. -/
  | completed {cs : InterfaceConfigs} {done : List Effect} {sent : List (List String)}
      (hd : derivedConfigs networks h.interfaces = .ok cs) (hdone : ∀ e ∈ done, e.isOnFiles)
      (hsent : ∀ c ∈ sent, ∃ b ∈ cs.announcements, ∃ ip, c = arpingCommand b.interface ip)
      (hrecorder : h.broadcaster = .recorder → sent = []) :
    Records m networks h (.ok ())
      (done ++ (if Effect.pathsWritten done = [] then [] else [.run m.restartCommand]) ++
        .broadcast cs.announcements :: sent.map .run)

/-- The record grows by what the result allows, and by nothing else. -/
theorem Ends.exists_records {completion : Completion} {out : SetupOutcome}
    (hends : Ends m networks completion h out h') :
    ∃ added, h'.effects = h.effects ++ added ∧ Records m networks h out.result added := by
  cases hends with
  | undetected hf => exact ⟨[], (List.append_nil _).symm, .undetected⟩
  | underived hd => exact ⟨[], (List.append_nil _).symm, .underived⟩
  | unwritten hd hw =>
    obtain ⟨done, hwritten⟩ := ConfigPaths.written_of_write_eq_error hw
    exact ⟨done, hwritten.effects_eq, .unwritten hwritten.isOnFiles⟩
  | unconfirmed hd hw hc =>
    obtain ⟨done, hdone, hrestarted⟩ := exists_restarted_eq hw
    obtain ⟨target, cause, rfl⟩ := exists_validation_of_checkFault?_eq_some hc
    refine ⟨_, ?_, .unconfirmed hdone⟩
    rw [hrestarted, List.append_assoc]
  | completed hd hw hc ha ho hr =>
    obtain ⟨done, hdone, hrestarted⟩ := exists_restarted_eq hw
    refine ⟨_, ?_, .completed hd hdone ha.isArping hr⟩
    rw [ha.effects_eq, hrestarted]
    simp only [record, List.append_assoc, List.singleton_append]

/-! ### Requests for announcements -/

/-- A restart asks for no announcements. -/
theorem filterMap_request?_restart (m : NetworkManager) (done : List Effect) :
    (if Effect.pathsWritten done = [] then [] else [Effect.run m.restartCommand]).filterMap
      Effect.request? = [] := by
  split
  · rfl
  · rfl

/-- A setup that ends with an error asks for no announcements. -/
theorem Records.requests_eq_of_error {e : NetworkError} {added : List Effect}
    (hr : Records m networks h (.error e) added) : added.filterMap Effect.request? = [] := by
  cases hr with
  | undetected => rfl
  | underived => rfl
  | unwritten hdone => exact Effect.filterMap_request?_of_isOnFiles hdone
  | unconfirmed hdone =>
    rw [List.filterMap_append, Effect.filterMap_request?_of_isOnFiles hdone,
      filterMap_request?_restart, List.append_nil]

/-- A setup that succeeds asks once for the announcements of its configurations. -/
theorem Records.requests_eq_of_ok {cs : InterfaceConfigs} {added : List Effect}
    (hd : derivedConfigs networks h.interfaces = .ok cs)
    (hr : Records m networks h (.ok ()) added) :
    added.filterMap Effect.request? = [cs.announcements] := by
  cases hr with
  | @completed cs' done sent hd' hdone hsent hrecorder =>
    obtain rfl : cs = cs' := Except.ok.inj (hd.symm.trans hd')
    have hannouncing : (Effect.broadcast cs.announcements :: sent.map .run).filterMap
        Effect.request? = [cs.announcements] := by
      simp [Effect.request?]
    rw [List.filterMap_append, List.filterMap_append,
      Effect.filterMap_request?_of_isOnFiles hdone, filterMap_request?_restart, hannouncing]
    rfl

/-- After an error the requests for announcements are those from before. -/
theorem Ends.requests_eq_of_error {completion : Completion} {out : SetupOutcome}
    (hends : Ends m networks completion h out h') {e : NetworkError} (hr : out.result = .error e) :
    h'.requests = h.requests := by
  obtain ⟨added, heffects, hrecords⟩ := hends.exists_records
  rw [hr] at hrecords
  rw [requests, heffects, List.filterMap_append, hrecords.requests_eq_of_error, List.append_nil]
  rfl

/-- After a success there is one more. -/
theorem Ends.requests_eq_of_ok {completion : Completion} {out : SetupOutcome}
    {cs : InterfaceConfigs} (hends : Ends m networks completion h out h')
    (hd : derivedConfigs networks h.interfaces = .ok cs) (hr : out.result = .ok ()) :
    h'.requests = h.requests ++ [cs.announcements] := by
  obtain ⟨added, heffects, hrecords⟩ := hends.exists_records
  rw [hr] at hrecords
  rw [requests, heffects, List.filterMap_append, hrecords.requests_eq_of_ok hd]
  rfl

end

/-- A manager with short paths, for examples. -/
def terse : NetworkManager where
  paths := ⟨⟨"/n"⟩, ⟨"/d/c"⟩, ⟨"/d"⟩, ⟨"/r"⟩⟩

end NetworkManager

end NetReconcile
