import NetReconcile.Announce.Basic

/-!
# Announcements that run side by side

The announcements of several interfaces are made by as many threads, which a main thread starts one
after the other. Every thread holds a share of a wait group and gives it back when it ends; a thread
whose announcement has failed sends the error to a channel first. The main thread gives back its own
share when all threads are started, waits until no share is held, and takes what came first from the
channel, without waiting for more.

Which thread goes next is not determined. A thread goes on by one step at a time: a look for its
interface, a lookup of the address, a command, an error that is sent, or the share that is given
back. All of them work on one host.

## Main definitions

* `Round`: the main thread, the other threads, and what they share.
* `Announcer.Step`: one thread goes on by one step.
-/

namespace NetReconcile

/-- Where a thread stands that makes one announcement. -/
inductive Worker.Phase
  /-- Makes the announcement. When it has ended, its outcome is still to be dealt with. -/
  | announcing (stage : Stage)
  /-- Is about to give back its share of the wait group. -/
  | leaving
  /-- Has given back its share, and ended. -/
  | gone

/-- A thread that makes one announcement. -/
structure Worker where
  binding : AddressBinding
  phase : Worker.Phase

/-- Where the main thread stands. -/
inductive MainPhase
  /-- Is about to start a thread for each of the given bindings. -/
  | starting (bindings : List AddressBinding)
  /-- Waits until no share of the wait group is held. -/
  | waiting
  | returned (outcome : Except HostError Unit)

/-- All threads that make the announcements of some bindings, and what they share. -/
structure Round (σ : Type) where
  host : σ
  main : MainPhase
  /-- The threads that were started, in the order in which they were. -/
  workers : List Worker := []
  /-- How many shares of the wait group are held. -/
  shares : Nat := 1
  /-- The errors that were sent to the channel, in the order in which they were. -/
  channel : List HostError := []

namespace Announcer

variable {σ : Type} [Station σ]

/-- What the main thread returns when it finds a channel like this. -/
def received : List HostError → Except HostError Unit
  | [] => .ok ()
  | e :: _ => .error e

/-- Before any thread is started. The main thread holds a share of the wait group. -/
def opening (bindings : List AddressBinding) (host : σ) : Round σ where
  host := host
  main := .starting bindings

/-- One thread goes on by one step. -/
inductive Step (a : Announcer) : Round σ → Round σ → Prop
  /-- The main thread starts a thread, which holds a share of the wait group. -/
  | start (host : σ) (b : AddressBinding) (bs : List AddressBinding) (workers : List Worker)
      (shares : Nat) (channel : List HostError) :
    Step a ⟨host, .starting (b :: bs), workers, shares, channel⟩
      ⟨host, .starting bs, workers ++ [⟨b, .announcing a.start⟩], shares + 1, channel⟩
  /-- The main thread gives back its share. -/
  | await (host : σ) (workers : List Worker) (shares : Nat) (channel : List HostError) :
    Step a ⟨host, .starting [], workers, shares + 1, channel⟩
      ⟨host, .waiting, workers, shares, channel⟩
  /-- The main thread looks into the channel when no share is held any more. -/
  | receive (host : σ) (workers : List Worker) (channel : List HostError) :
    Step a ⟨host, .waiting, workers, 0, channel⟩
      ⟨host, .returned (received channel), workers, 0, channel⟩
  /-- A thread takes a step of its announcement. -/
  | announce (host : σ) (main : MainPhase) (before after : List Worker) (b : AddressBinding)
      (stage : Stage) (shares : Nat) (channel : List HostError)
      (hstage : ∀ outcome, stage ≠ .ended outcome) :
    Step a ⟨host, main, before ++ ⟨b, .announcing stage⟩ :: after, shares, channel⟩
      ⟨(a.next b stage host).2, main,
        before ++ ⟨b, .announcing (a.next b stage host).1⟩ :: after, shares, channel⟩
  /-- A thread whose announcement has failed sends the error. -/
  | send (host : σ) (main : MainPhase) (before after : List Worker) (b : AddressBinding)
      (e : HostError) (shares : Nat) (channel : List HostError) :
    Step a ⟨host, main, before ++ ⟨b, .announcing (.ended (.error e))⟩ :: after, shares, channel⟩
      ⟨host, main, before ++ ⟨b, .leaving⟩ :: after, shares, channel ++ [e]⟩
  /-- A thread whose announcement was made has nothing to send. -/
  | pass (host : σ) (main : MainPhase) (before after : List Worker) (b : AddressBinding)
      (ip : IPv4) (shares : Nat) (channel : List HostError) :
    Step a ⟨host, main, before ++ ⟨b, .announcing (.ended (.ok ip))⟩ :: after, shares, channel⟩
      ⟨host, main, before ++ ⟨b, .leaving⟩ :: after, shares, channel⟩
  /-- A thread gives back its share. -/
  | leave (host : σ) (main : MainPhase) (before after : List Worker) (b : AddressBinding)
      (shares : Nat) (channel : List HostError) :
    Step a ⟨host, main, before ++ ⟨b, .leaving⟩ :: after, shares + 1, channel⟩
      ⟨host, main, before ++ ⟨b, .gone⟩ :: after, shares, channel⟩

end Announcer

end NetReconcile
