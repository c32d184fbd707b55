import NetReconcile.Proofs.Announce.Indifference
import NetReconcile.Proofs.Materialize.InMemory

/-!
# Announcing on a host in memory

Announcements look whether interfaces exist, look up addresses and run `arping`. On a host in memory
they leave files, links and everything that a configuration is derived from or checked against as
they were, and what they add to the record of effects is the commands that they ran.

## Main statements

* `Announcer.announced_next`: what one step of an announcement may change.
* `Announcer.announced_announceAll`: what all announcements may change.
* `MemoryHost.announced_broadcast`: the same for the broadcaster of a host in memory.
-/

namespace NetReconcile

namespace MemoryHost

/-- One host is reached from another by announcing bindings alone, with the commands `sent`. -/
structure Announced (bindings : List AddressBinding) (sent : List (List String))
    (h h' : MemoryHost) : Prop where
  host_eq : h' = { h with
    appearing := h'.appearing, effects := h.effects ++ sent.map .run, lookups := h'.lookups,
    polls := h'.polls, pauses := h'.pauses, events := h'.events }
  isArping : ∀ c ∈ sent, ∃ b ∈ bindings, ∃ ip, c = arpingCommand b.interface ip

namespace Announced

variable {bindings : List AddressBinding} {sent : List (List String)} {h h' : MemoryHost}

theorem refl (bindings : List AddressBinding) (h : MemoryHost) : Announced bindings [] h h :=
  ⟨by simp, by simp⟩

/-- What two announcements ran one after the other is what both ran. -/
theorem trans {sent₁ sent₂ : List (List String)} {h₁ h₂ h₃ : MemoryHost}
    (h₁₂ : Announced bindings sent₁ h₁ h₂) (h₂₃ : Announced bindings sent₂ h₂ h₃) :
    Announced bindings (sent₁ ++ sent₂) h₁ h₃ := by
  refine ⟨?_, fun c hc ↦ ?_⟩
  · rw [h₂₃.host_eq, h₁₂.host_eq]
    simp
  · rcases List.mem_append.1 hc with hc | hc
    · exact h₁₂.isArping c hc
    · exact h₂₃.isArping c hc

/-- Announcing some of the bindings is announcing no more than all of them. -/
theorem mono {bindings' : List AddressBinding} (hsub : ∀ b ∈ bindings, b ∈ bindings')
    (ha : Announced bindings sent h h') : Announced bindings' sent h h' := by
  refine ⟨ha.host_eq, fun c hc ↦ ?_⟩
  obtain ⟨b, hb, ip, rfl⟩ := ha.isArping c hc
  exact ⟨b, hsub b hb, ip, rfl⟩

/-- The record of effects grows by the commands, and by nothing else. -/
theorem effects_eq (ha : Announced bindings sent h h') :
    h'.effects = h.effects ++ sent.map .run := by
  rw [ha.host_eq]

/-- Reporting an event changes nothing that counts. -/
theorem report (ha : Announced bindings sent h h') (e : Event) :
    Announced bindings sent h (Station.report e h') :=
  ⟨by rw [ha.host_eq]; rfl, ha.isArping⟩

/-- Waiting changes nothing that counts. -/
theorem pause (ha : Announced bindings sent h h') (ms : Nat) :
    Announced bindings sent h (Station.pause ms h') :=
  ⟨by rw [ha.host_eq]; rfl, ha.isArping⟩

end Announced

/-- Looking whether an interface is there only counts the look. -/
theorem announced_isPresent (bindings : List AddressBinding) (path : FilePath) (h : MemoryHost) :
    Announced bindings [] h (FileStore.isPresent path h).2 := by
  refine ⟨?_, by simp⟩
  show (h.isPresent path).2 = { h with
    appearing := (h.isPresent path).2.appearing, effects := h.effects ++ [],
    lookups := (h.isPresent path).2.lookups, polls := (h.isPresent path).2.polls,
    pauses := (h.isPresent path).2.pauses, events := (h.isPresent path).2.events }
  rw [List.append_nil, isPresent]
  dsimp only
  split
  · rfl
  · rfl
  · rfl

/-- Looking up an address adds to the record of lookups. -/
theorem primaryIPv4_eq (interface : String) (h : MemoryHost) :
    (Station.primaryIPv4 interface : HostM MemoryHost IPv4) h =
      match h.addressOf? interface with
      | some ip => .ok ip { h with lookups := h.lookups ++ [interface] }
      | none => .error (.noIPv4 interface) { h with lookups := h.lookups ++ [interface] } := by
  show (match h.addressOf? interface with
    | some ip => pure ip
    | none => throw (.noIPv4 interface) : HostM MemoryHost IPv4)
      { h with lookups := h.lookups ++ [interface] } = _
  cases h.addressOf? interface with
  | some ip => rfl
  | none => rfl

/-- Running a command adds it to the record. -/
theorem run_eq (command : List String) (h : MemoryHost) :
    (Station.run command : HostM MemoryHost Unit) h =
      match commandFault? h.faults command with
      | some message => .error (.reported message) (record (.run command) h)
      | none => .ok () (record (.run command) h) := by
  show failIf (commandFault? h.faults command) (record (.run command) h) = _
  cases commandFault? h.faults command with
  | some message => rfl
  | none => rfl

end MemoryHost

namespace Announcer

open MemoryHost

/-! ### One step -/

theorem announced_look (a : Announcer) (b : AddressBinding) (backoff : Backoff) (h : MemoryHost) :
    Announced [b] [] h (a.look b backoff h).2 := by
  have hseen := announced_isPresent [b] (a.sysClassNet.join b.interface) h
  unfold look
  split
  · rename_i h' heq
    rw [heq] at hseen
    split
    · exact hseen
    · exact hseen
  · rename_i h' heq
    rw [heq] at hseen
    split
    · exact hseen.report _
    · exact hseen.pause _

theorem announced_resolve (b : AddressBinding) (h : MemoryHost) :
    Announced [b] [] h (resolve b h).2 := by
  have hseen : Announced [b] [] h { h with lookups := h.lookups ++ [b.interface] } :=
    ⟨by simp, by simp⟩
  have hrun := primaryIPv4_eq b.interface h
  unfold resolve
  cases hf : h.addressOf? b.interface with
  | some ip =>
    rw [hf] at hrun
    rw [within_of_ok hrun]
    exact hseen
  | none =>
    rw [hf] at hrun
    rw [within_of_error hrun]
    exact hseen.report _

/-- Sending runs one command for the interface, whether or not it fails. -/
theorem announced_send (a : Announcer) (b : AddressBinding) (ip : IPv4) (sent : Nat)
    (h : MemoryHost) : Announced [b] [arpingCommand b.interface ip] h (a.send b ip sent h).2 := by
  have hsent : Announced [b] [arpingCommand b.interface ip] h
      (record (.run (arpingCommand b.interface ip)) h) :=
    ⟨rfl, by simp⟩
  have hrun := run_eq (arpingCommand b.interface ip) h
  unfold send
  cases hf : commandFault? h.faults (arpingCommand b.interface ip) with
  | some message =>
    rw [hf] at hrun
    rw [within_of_error hrun]
    exact hsent.report _
  | none =>
    rw [hf] at hrun
    rw [within_of_ok hrun]
    dsimp only
    split
    · exact hsent.pause _
    · exact hsent.report _

/-- A step of an announcement runs no command but `arping`. -/
theorem announced_next (a : Announcer) (b : AddressBinding) (stage : Stage) (h : MemoryHost) :
    ∃ sent, Announced [b] sent h (a.next b stage h).2 := by
  cases stage with
  | waiting backoff => exact ⟨_, a.announced_look b backoff h⟩
  | resolving => exact ⟨_, announced_resolve b h⟩
  | sending ip sent => exact ⟨_, a.announced_send b ip sent h⟩
  | ended outcome => exact ⟨_, Announced.refl [b] h⟩

/-! ### Whole announcements -/

/-- A whole announcement runs no command but `arping`, because no step of it does. -/
theorem announced_finish (a : Announcer) (b : AddressBinding) (stage : Stage) (h : MemoryHost) :
    ∃ sent, Announced [b] sent h (a.finish b stage h).2 := by
  fun_induction a.finish b stage h with
  | case1 h outcome => exact ⟨[], Announced.refl [b] h⟩
  | case2 h backoff _ ih =>
    obtain ⟨first, hfirst⟩ := a.announced_next b (.waiting backoff) h
    obtain ⟨rest, hrest⟩ := ih
    exact ⟨first ++ rest, hfirst.trans hrest⟩
  | case3 h _ ih =>
    obtain ⟨first, hfirst⟩ := a.announced_next b .resolving h
    obtain ⟨rest, hrest⟩ := ih
    exact ⟨first ++ rest, hfirst.trans hrest⟩
  | case4 h ip times _ ih =>
    -- `times` counts the commands sent so far; the record has one more of them after this step
    obtain ⟨first, hfirst⟩ := a.announced_next b (.sending ip times) h
    obtain ⟨rest, hrest⟩ := ih
    exact ⟨first ++ rest, hfirst.trans hrest⟩

/-- All announcements run `arping` for their own interfaces, and nothing else. -/
theorem announced_announceAll (a : Announcer) (bs : List AddressBinding) (h : MemoryHost) :
    ∃ sent, Announced bs sent h (a.announceAll bs h).2 := by
  induction bs generalizing h with
  | nil => exact ⟨[], Announced.refl [] h⟩
  | cons b bs ih =>
    obtain ⟨first, hfirst⟩ := a.announced_finish b a.start h
    obtain ⟨rest, hrest⟩ := ih (a.announce b h).2
    refine ⟨first ++ rest, ?_⟩
    have hstate : (a.announceAll (b :: bs) h).2 = (a.announceAll bs (a.announce b h).2).2 := by
      rw [announceAll]
      obtain ⟨outcome, h₁⟩ := a.announce b h
      dsimp only
      cases outcome with
      | ok ip => rfl
      | error e => rfl
    rw [hstate]
    -- commands for `b` and commands for one of `bs` are both commands for one of `b :: bs`
    exact (hfirst.mono fun c hc ↦ List.mem_cons.2 (.inl (List.mem_singleton.1 hc))).trans
      (hrest.mono fun c hc ↦ List.mem_cons_of_mem _ hc)

end Announcer

namespace MemoryHost

/-- A broadcaster records that it was called, and then announces if it is a real one. -/
theorem broadcast_eq (bindings : List AddressBinding) (h : MemoryHost) :
    (Host.broadcast bindings : HostM MemoryHost Unit) h =
      match h.broadcaster with
      | .announcer => h.announcer.broadcast bindings (record (.broadcast bindings) h)
      | .recorder => failIf h.faults.broadcast (record (.broadcast bindings) h) := by
  show (match h.broadcaster with
    | .announcer => do (← get).announcer.broadcast bindings
    | .recorder => do failIf (← get).faults.broadcast : HostM MemoryHost Unit)
      (record (.broadcast bindings) h) = _
  cases h.broadcaster with
  | announcer => rfl
  | recorder => rfl

/-- Announcements are made alike on related hosts, if announcing cannot tell these apart. -/
theorem respects_broadcast_of_indifferent {R : MemoryHost → MemoryHost → Prop}
    (hR : IndifferentAnnouncing R)
    (hsame : ∀ h k, R h k → k.broadcaster = h.broadcaster ∧ k.announcer = h.announcer ∧
      k.faults = h.faults)
    (hrecord : ∀ e h k, R h k → R (record e h) (record e k)) (bindings : List AddressBinding) :
    Respects R (Host.broadcast bindings : HostM MemoryHost Unit) := by
  intro h k hs
  obtain ⟨hbroadcaster, hannouncer, hfaults⟩ := hsame h k hs
  rw [broadcast_eq, broadcast_eq, hbroadcaster, hannouncer, hfaults]
  cases h.broadcaster with
  | announcer => exact hR.broadcast h.announcer bindings _ _ (hrecord _ h k hs)
  | recorder =>
    cases h.faults.broadcast with
    | some message => exact .error _ (hrecord _ h k hs)
    | none => exact .ok () (hrecord _ h k hs)

/-- Calling the broadcaster is recorded, and nothing but announcing follows. -/
theorem announced_broadcast (bindings : List AddressBinding) (h : MemoryHost) :
    ∃ sent, ((∃ h', (Host.broadcast bindings : HostM MemoryHost Unit) h = .ok () h' ∧
          Announced bindings sent (record (.broadcast bindings) h) h') ∨
        ∃ e h', (Host.broadcast bindings : HostM MemoryHost Unit) h = .error e h' ∧
          Announced bindings sent (record (.broadcast bindings) h) h') ∧
      (h.broadcaster = .recorder → sent = []) := by
  rw [broadcast_eq]
  cases h.broadcaster with
  | announcer =>
    obtain ⟨sent, hsent⟩ :=
      h.announcer.announced_announceAll bindings (record (.broadcast bindings) h)
    refine ⟨sent, ?_, by simp⟩
    dsimp only [Announcer.broadcast]
    rcases hall : h.announcer.announceAll bindings (record (.broadcast bindings) h) with
      ⟨failures, h'⟩
    rw [hall] at hsent
    cases failures with
    | nil => exact .inl ⟨h', rfl, hsent⟩
    | cons e failures => exact .inr ⟨e, h', rfl, hsent⟩
  | recorder =>
    refine ⟨[], ?_, fun _ ↦ rfl⟩
    cases h.faults.broadcast with
    | none => exact .inl ⟨_, rfl, Announced.refl _ _⟩
    | some message => exact .inr ⟨_, _, rfl, Announced.refl _ _⟩

end MemoryHost

end NetReconcile
