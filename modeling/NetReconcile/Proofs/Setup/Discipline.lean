import NetReconcile.Proofs.Setup.Agreement
import NetReconcile.Proofs.Setup.Ends

/-!
# What a setup may do to a host

The result with which a setup ends tells what it may have done. Nothing is touched before there is a
configuration; nothing is run before all files are in place; nothing is announced before the checks
have passed. A restart is tried exactly once if a file was written, and its outcome has no part in
the result.

A setup that succeeds has one thing left to tell: the outcome of its announcements. That outcome is
what the broadcaster of the host answers when it is called with the announcements of the derived
configurations, on the host as the checks have found it.

## Main definitions

* `NetworkManager.Completed`: what has been done when a setup succeeds.
* `NetworkManager.Staged`: what may have been done, by the result.

## Main statements

* `NetworkManager.Ends.exists_completed`: a setup that succeeds has done all that `Completed` lists.
* `NetworkManager.staged_setup`: every setup of a host in memory, with any failures arranged for,
  does what its result allows.
-/

namespace NetReconcile

open MemoryHost

namespace NetworkManager

/-! ### What the result tells -/

/-- What a setup has done to a host when it succeeds with configurations `cs`: first `done` to files
and links, then the restart, then the request for announcements, and last the commands `sent` for
them. -/
structure Completed (m : NetworkManager) (cs : InterfaceConfigs) (completion : Completion)
    (h : MemoryHost) (done : List Effect) (sent : List (List String))
    (delivered : Option (Except NetworkError Unit)) (h' : MemoryHost) : Prop where
  /-- The host holds the address of every static configuration. -/
  holdsAddresses : h'.HoldsAddresses cs
  /-- If there are nameservers, the resolver file can be read and names all of them. -/
  namesNameservers : cs.dns ≠ [] → ∃ contents,
    (FileStore.read m.paths.resolvConf : HostM MemoryHost (Option String)) h' =
      .ok (some contents) h' ∧
    ∀ server ∈ cs.dns, server ∈ parseNameservers contents
  isOnFiles : ∀ e ∈ done, e.isOnFiles
  /-- There was one restart if a file was written, and none otherwise. -/
  effects_eq : h'.effects = h.effects ++ done ++
    (if Effect.pathsWritten done = [] then [] else [.run m.restartCommand]) ++
    .broadcast cs.announcements :: sent.map .run
  /-- Only `arping` is run for announcements. -/
  isArping : ∀ c ∈ sent, ∃ b ∈ cs.announcements, ∃ ip, c = arpingCommand b.interface ip
  /-- Nothing is run for them if calls of the broadcaster are only recorded. -/
  sent_eq_nil : h.broadcaster = .recorder → sent = []
  /-- The announcements of the configurations were asked for, once. -/
  requests_eq : h'.requests = h.requests ++ [cs.announcements]
  /-- Whoever waits receives what the broadcaster answers to that request, on the host as the
  restart has left it. -/
  delivered_eq : ∃ events, delivered = completion.received (broadcastOutcome
    (Host.broadcast cs.announcements { h with
      files := h'.files, links := h'.links
      effects := h.effects ++ done ++
        if Effect.pathsWritten done = [] then [] else [.run m.restartCommand]
      events := events }))
  /-- If calls are only recorded, the answer is the failure that is arranged for them. -/
  delivered_eq_of_recorder : h.broadcaster = .recorder → delivered = completion.received
    (match h.faults.broadcast with
    | some message => .error (.broadcast (.reported message))
    | none => .ok ())

/-- What a setup may have done to a host when it ends with a result. -/
structure Staged (m : NetworkManager) (networks : Networks) (completion : Completion)
    (h : MemoryHost) (out : SetupOutcome) (h' : MemoryHost) : Prop where
  /-- When the hardware cannot be detected, nothing was done. -/
  undetected : ∀ e, out.result = .error (.discovery e) → h' = { h with events := h'.events }
  /-- When no configuration can be derived, nothing was done. -/
  underived : ∀ e, out.result = .error (.derivation e) → h' = { h with events := h'.events }
  /-- When a file cannot be written, no command was run and nothing was announced. -/
  unwritten : ∀ e, out.result = .error (.persistence e) →
    h'.commands = h.commands ∧ h'.requests = h.requests
  /-- When a check fails, nothing was announced. There was one restart if a file was written, and
  none otherwise. -/
  unconfirmed : ∀ target e, out.result = .error (.validation target e) →
    h'.requests = h.requests ∧
    ∃ done, (∀ e ∈ done, e.isOnFiles) ∧
      h'.effects = h.effects ++ done ++
        if Effect.pathsWritten done = [] then [] else [.run m.restartCommand]
  /-- When the setup succeeds, there are configurations, and all that is due for them was done. -/
  completed : out.result = .ok () → ∃ cs done sent,
    derivedConfigs networks h.interfaces = .ok cs ∧
      Completed m cs completion h done sent out.delivered h'
  /-- The outcome of the announcements is never the result. -/
  not_broadcast : ∀ e, out.result ≠ .error (.broadcast e)
  /-- Whoever waits receives one outcome if the setup succeeds, and none otherwise. -/
  received_iff : out.delivered.isSome ↔ out.result = .ok () ∧ completion = .awaited
  /-- What is received is a success or an error of announcing. Which of them it is, and which error,
  is said by `Completed.delivered_eq`. -/
  received : ∀ outcome ∈ out.delivered, outcome = .ok () ∨ ∃ e, outcome = .error (.broadcast e)

section

variable {m : NetworkManager} {networks : Networks} {completion : Completion} {h h' : MemoryHost}
  {out : SetupOutcome}

/-- Before there is a configuration, only events are reported. -/
theorem Ends.host_eq_of_early (hends : Ends m networks completion h out h')
    (hearly : (∃ e, out.result = .error (.discovery e)) ∨
      ∃ e, out.result = .error (.derivation e)) :
    h' = { h with events := h'.events } := by
  cases hends with
  | undetected hf => rfl
  | underived hd => rfl
  | unwritten hd hw => simp at hearly
  | unconfirmed hd hw hc =>
    obtain ⟨target, cause, rfl⟩ := exists_validation_of_checkFault?_eq_some hc
    simp at hearly
  | completed hd hw hc ha ho hr => simp at hearly

/-- A setup that fails to write runs no command. -/
theorem Ends.commands_eq_of_persistence (hends : Ends m networks completion h out h')
    {e : HostError} (hr : out.result = .error (.persistence e)) : h'.commands = h.commands := by
  obtain ⟨added, heffects, hrecords⟩ := hends.exists_records
  rw [hr] at hrecords
  cases hrecords with
  | unwritten hdone =>
    rw [commands, heffects, List.filterMap_append, Effect.filterMap_command?_of_isOnFiles hdone,
      List.append_nil]
    rfl

/-- A setup that fails in a check has written and restarted, and nothing else. -/
theorem Ends.exists_effects_eq_of_validation (hends : Ends m networks completion h out h')
    {target : ValidationTarget} {e : HostError}
    (hr : out.result = .error (.validation target e)) :
    ∃ done, (∀ e ∈ done, e.isOnFiles) ∧
      h'.effects = h.effects ++ done ++
        if Effect.pathsWritten done = [] then [] else [.run m.restartCommand] := by
  obtain ⟨added, heffects, hrecords⟩ := hends.exists_records
  rw [hr] at hrecords
  cases hrecords with
  | @unconfirmed _ _ done hdone => exact ⟨done, hdone, by rw [heffects, List.append_assoc]⟩

/-- A setup that succeeds has done all that is due for its configurations. -/
theorem Ends.exists_completed (hends : Ends m networks completion h out h')
    (hok : out.result = .ok ()) :
    ∃ cs done sent, derivedConfigs networks h.interfaces = .ok cs ∧
      Completed m cs completion h done sent out.delivered h' := by
  have hrequests {cs : InterfaceConfigs} (hd : derivedConfigs networks h.interfaces = .ok cs) :
      h'.requests = h.requests ++ [cs.announcements] :=
    hends.requests_eq_of_ok hd hok
  cases hends with
  | @completed cs events events' changed h₁ h₂ outcome sent hd hw hc ha ho hr =>
    obtain ⟨done, hdone, hrestarted⟩ := exists_restarted_eq hw
    have hagree := Agree.of_announced ha
    -- announcing leaves what the checks look at, so they would pass on the final host as well
    obtain ⟨haddresses, hnameservers⟩ :=
      checkFault?_eq_none_iff.1 ((m.checkFault?_congr cs hagree).trans hc)
    have hfiles : h'.files = h₁.files := hagree.files_eq
    have hlinks : h'.links = h₁.links := hagree.links_eq
    rw [hrestarted] at ha ho
    refine ⟨cs, done, sent, hd, {
      holdsAddresses := holdsAddresses_of_addressFault?_eq_none haddresses
      namesNameservers := exists_read_of_nameserverFault?_eq_none hnameservers
      isOnFiles := hdone
      effects_eq := ?_
      isArping := ha.isArping
      sent_eq_nil := hr
      requests_eq := hrequests hd
      delivered_eq := ⟨events', by rw [ho, hfiles, hlinks]⟩
      delivered_eq_of_recorder := fun hb ↦ congrArg (completion.received ·)
        (ho.trans (broadcastOutcome_of_recorder cs.announcements hb)) }⟩
    rw [ha.effects_eq]
    simp only [record, List.append_assoc, List.singleton_append]
  | _ => simp at hok

/-- What is delivered is a success or an error of announcing, and nothing is after a failure. -/
theorem Ends.delivered_eq (hends : Ends m networks completion h out h') :
    (∃ answer, out = ⟨.ok (), completion.received (broadcastOutcome answer)⟩) ∨
      ∃ e, out = ⟨.error e, none⟩ := by
  cases hends with
  | completed hd hw hc ha ho hr => exact .inl ⟨_, by rw [ho]⟩
  | _ => exact .inr ⟨_, rfl⟩

/-- No setup ends with an error of announcing. -/
theorem Ends.result_ne_broadcast (hends : Ends m networks completion h out h') (e : HostError) :
    out.result ≠ .error (.broadcast e) := by
  intro hr
  obtain ⟨added, -, hrecords⟩ := hends.exists_records
  rw [hr] at hrecords
  cases hrecords

theorem staged_of_ends (hends : Ends m networks completion h out h') :
    Staged m networks completion h out h' where
  undetected e hr := hends.host_eq_of_early (.inl ⟨e, hr⟩)
  underived e hr := hends.host_eq_of_early (.inr ⟨e, hr⟩)
  unwritten e hr := ⟨hends.commands_eq_of_persistence hr, hends.requests_eq_of_error hr⟩
  unconfirmed target e hr :=
    ⟨hends.requests_eq_of_error hr, hends.exists_effects_eq_of_validation hr⟩
  completed hr := hends.exists_completed hr
  not_broadcast := hends.result_ne_broadcast
  received_iff := by
    obtain ⟨answer, rfl⟩ | ⟨e, rfl⟩ := hends.delivered_eq
    · cases completion <;> simp [Completion.received]
    · simp
  received := by
    intro outcome hmem
    obtain ⟨answer, rfl⟩ | ⟨e, rfl⟩ := hends.delivered_eq
    · cases completion with
      | awaited =>
        obtain rfl : broadcastOutcome answer = outcome := Option.some.inj hmem
        exact broadcastOutcome_eq answer
      | unrequested => cases hmem
      | abandoned => cases hmem
    · cases hmem

/-- Every setup of a host in memory, with any failures arranged for, does what its result allows.
The result is the same whatever commands fail, so the outcome of a restart has no part in it. -/
theorem staged_setup (m : NetworkManager) (networks : Networks) (completion : Completion)
    (h : MemoryHost) :
    Staged m networks completion h (m.setup networks completion h).1
        (m.setup networks completion h).2 ∧
      ∀ commands, (m.setup networks completion
          { h with faults := { h.faults with commands := commands } }).1.result =
        (m.setup networks completion h).1.result :=
  ⟨staged_of_ends (m.ends_setup networks completion h), fun _ ↦
    m.result_setup_congr networks completion completion ⟨rfl, rfl, rfl, rfl, rfl⟩⟩

end

end NetworkManager

end NetReconcile
