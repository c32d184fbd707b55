import NetReconcile.Host

/-!
# Announcing addresses

After an address has moved to an interface, neighbours learn of it by unsolicited messages that the
program `arping` sends. Announcing one binding goes through stages: wait until the interface exists,
look up its address unless it is known, then send a number of times. Every stage is left by one step
on the host, so that the announcements of several interfaces can be interleaved step by step.

An announcement that fails stops there, and does not keep the others from being made.

## Main definitions

* `Stage.next`: one step of an announcement.
* `Announcer.announce`: an announcement by itself, from its first stage to its last.
* `Announcer.broadcast`: the announcements of several interfaces; the error is the first that arose.

## Main statements

* `Announcer.finish_eq_finish_next`: an announcement goes on by its next step.
* `Announcer.induction_next`: what is shown of a stage from the stage after it holds of all.
-/

namespace NetReconcile

/-- How announcements are made. -/
structure Announcer where
  /-- The directory in which existing interfaces have an entry. -/
  sysClassNet : FilePath := ⟨"/sys/class/net"⟩
  /-- How often an address is sent; at least once in any case. -/
  iterations : Nat := 6
  /-- The time between two times of sending. -/
  intervalMs : Nat := 5000
  /-- How often to wait for an interface before giving up on it. -/
  waitAttempts : UInt32 := 20
  /-- The bound of the first wait for an interface. -/
  waitBaseMs : UInt64 := 100
  deriving DecidableEq

/-- The longest wait for an interface between two looks. -/
def Announcer.waitCapMs : UInt64 :=
  2000

/-- The command that sends an address on an interface once. -/
def arpingCommand (interface : String) (ip : IPv4) : List String :=
  ["arping", "-c", "1", "-U", "-I", interface, ip.text]

/-- Where an announcement stands. -/
inductive Stage
  /-- Waiting for the interface to exist. -/
  | waiting (backoff : Backoff)
  /-- About to look up the address. -/
  | resolving
  /-- About to send, after having sent a number of times. -/
  | sending (ip : IPv4) (sent : Nat)
  | ended (outcome : Except HostError IPv4)

namespace Announcer

variable {σ : Type} [Station σ]

/-- The first stage of an announcement. -/
def start (a : Announcer) : Stage :=
  .waiting ⟨0, a.waitBaseMs, waitCapMs⟩

/-- Ends an announcement with a failure. -/
def fail (interface : String) (e : HostError) (s : σ) : Stage × σ :=
  (.ended (.error e), Station.report (.announceFailed interface e) s)

/-- Looks for the interface. If it is not there, waits, unless it has waited often enough. -/
def look (a : Announcer) (b : AddressBinding) (backoff : Backoff) (s : σ) : Stage × σ :=
  match FileStore.isPresent (a.sysClassNet.join b.interface) s with
  | (true, s) =>
    match b.source with
    | .known ip => (.sending ip 0, s)
    | .deferred => (.resolving, s)
  | (false, s) =>
    if a.waitAttempts ≤ backoff.attempt then
      fail b.interface (.interfaceAbsent b.interface a.waitAttempts.toNat) s
    else (.waiting backoff.wait, Station.pause backoff.maxWaitMs s)

/-- Looks up the address. -/
def resolve (b : AddressBinding) (s : σ) : Stage × σ :=
  match within (.resolveAddress b.interface) (Station.primaryIPv4 b.interface) s with
  | .ok ip s => (.sending ip 0, s)
  | .error e s => fail b.interface e s

/-- Sends the address once. -/
def send (a : Announcer) (b : AddressBinding) (ip : IPv4) (sent : Nat) (s : σ) : Stage × σ :=
  match within (.announce ip b.interface) (Station.run (arpingCommand b.interface ip)) s with
  | .ok _ s =>
    if sent + 1 < a.iterations then (.sending ip (sent + 1), Station.pause a.intervalMs s)
    else (.ended (.ok ip), Station.report (.announced ip b.interface) s)
  | .error e s => fail b.interface e s

/-- One step of an announcement. -/
def next (a : Announcer) (b : AddressBinding) : Stage → σ → Stage × σ
  | .waiting backoff, s => a.look b backoff s
  | .resolving, s => resolve b s
  | .sending ip sent, s => a.send b ip sent s
  | .ended outcome, s => (.ended outcome, s)

/-! ### An announcement by itself -/

/-- How many steps an announcement has left at most. -/
def remaining (a : Announcer) : Stage → Nat
  | .waiting backoff => a.iterations + 3 + (a.waitAttempts.toNat - backoff.attempt.toNat)
  | .resolving => a.iterations + 2
  | .sending _ sent => 1 + (a.iterations - sent)
  | .ended _ => 0

theorem remaining_look_lt (a : Announcer) (b : AddressBinding) (backoff : Backoff) (s : σ) :
    a.remaining (a.look b backoff s).1 < a.remaining (.waiting backoff) := by
  unfold look
  split
  · split <;> simp only [remaining] <;> omega
  · split
    · simp only [fail, remaining]; omega
    · rename_i h
      have h : backoff.attempt.toNat < a.waitAttempts.toNat := by
        simpa [UInt32.le_iff_toNat_le] using h
      have := a.waitAttempts.toNat_lt
      simp only [remaining, Backoff.wait, Backoff.toNat_succ, UInt32.size]
      omega

theorem remaining_resolve_lt (a : Announcer) (b : AddressBinding) (s : σ) :
    a.remaining (resolve b s).1 < a.remaining .resolving := by
  unfold resolve
  split <;> simp only [fail, remaining] <;> omega

theorem remaining_send_lt (a : Announcer) (b : AddressBinding) (ip : IPv4) (sent : Nat) (s : σ) :
    a.remaining (a.send b ip sent s).1 < a.remaining (.sending ip sent) := by
  unfold send
  split
  · split <;> simp only [remaining] <;> omega
  · simp only [fail, remaining]; omega

/-- Takes an announcement from a stage to its end. -/
def finish (a : Announcer) (b : AddressBinding) (stage : Stage) (s : σ) :
    Except HostError IPv4 × σ :=
  match stage with
  | .ended outcome => (outcome, s)
  | .waiting backoff =>
    have := remaining_look_lt a b backoff s
    a.finish b (a.look b backoff s).1 (a.look b backoff s).2
  | .resolving =>
    have := remaining_resolve_lt a b s
    a.finish b (resolve b s).1 (resolve b s).2
  | .sending ip sent =>
    have := remaining_send_lt a b ip sent s
    a.finish b (a.send b ip sent s).1 (a.send b ip sent s).2
termination_by a.remaining stage

/-- Makes one announcement by itself. -/
def announce (a : Announcer) (b : AddressBinding) (s : σ) : Except HostError IPv4 × σ :=
  a.finish b a.start s

section

variable {a : Announcer} {b : AddressBinding} {stage : Stage}

theorem finish_ended (outcome : Except HostError IPv4) (s : σ) :
    a.finish b (.ended outcome) s = (outcome, s) := by
  rw [finish]

/-- An announcement that has not ended goes on by its next step. -/
theorem finish_eq_finish_next (hstage : ∀ outcome, stage ≠ .ended outcome) (s : σ) :
    a.finish b stage s = a.finish b (a.next b stage s).1 (a.next b stage s).2 := by
  cases stage with
  | waiting backoff => rw [finish]; rfl
  | resolving => rw [finish]; rfl
  | sending ip sent => rw [finish]; rfl
  | ended outcome => exact absurd rfl (hstage outcome)

/-- One step leaves less to do. -/
theorem remaining_next_lt (hstage : ∀ outcome, stage ≠ .ended outcome) (s : σ) :
    a.remaining (a.next b stage s).1 < a.remaining stage := by
  cases stage with
  | waiting backoff => exact a.remaining_look_lt b backoff s
  | resolving => exact a.remaining_resolve_lt b s
  | sending ip sent => exact a.remaining_send_lt b ip sent s
  | ended outcome => exact absurd rfl (hstage outcome)

/-- What holds where an announcement has ended, and before a step if it holds after the step, holds
at every stage. -/
theorem induction_next (a : Announcer) (b : AddressBinding) {motive : Stage → σ → Prop}
    (ended : ∀ outcome s, motive (.ended outcome) s)
    (step : ∀ stage s, (∀ outcome, stage ≠ .ended outcome) →
      motive (a.next b stage s).1 (a.next b stage s).2 → motive stage s)
    (stage : Stage) (s : σ) : motive stage s := by
  fun_induction a.finish b stage s with
  | case1 s outcome => exact ended outcome s
  | case2 s backoff _ ih => exact step _ s nofun ih
  | case3 s _ ih => exact step _ s nofun ih
  | case4 s ip sent _ ih => exact step _ s nofun ih

end

/-! ### The announcements of several interfaces -/

/-- Makes announcements one after the other, and gathers the failures in the order in which they
arise. -/
def announceAll (a : Announcer) : List AddressBinding → σ → List HostError × σ
  | [], s => ([], s)
  | b :: bs, s =>
    let (outcome, s) := a.announce b s
    let (failures, s) := a.announceAll bs s
    match outcome with
    | .ok _ => (failures, s)
    | .error e => (e :: failures, s)

/-- Makes all announcements; the error is the first that arose. -/
def broadcast (a : Announcer) (bs : List AddressBinding) : HostM σ Unit := fun s ↦
  match a.announceAll bs s with
  | ([], s) => .ok () s
  | (e :: _, s) => .error e s

end Announcer

end NetReconcile
