import NetReconcile.Announce.Basic
import NetReconcile.Proofs.HostM

/-!
# Hosts that announcements cannot tell apart

An announcement learns of a host only by looking for an interface, looking up an address and running
commands. So if none of these can tell related hosts apart, and all of them leave related hosts,
then announcements come to the same on related hosts, and leave related hosts.

## Main definitions

* `IndifferentAnnouncing`: a relation of hosts that announcements cannot tell apart.

## Main statements

* `IndifferentAnnouncing.finish`: a whole announcement respects such a relation.
* `IndifferentAnnouncing.broadcast`: and so do the announcements of several interfaces.
-/

namespace NetReconcile

variable {σ : Type} [Station σ] {R : σ → σ → Prop}

/-- What announcements ask for cannot tell related hosts apart. -/
structure IndifferentAnnouncing (R : σ → σ → Prop) : Prop where
  isPresent : ∀ path s t, R s t →
    SameAnswer R (FileStore.isPresent path s) (FileStore.isPresent path t)
  primaryIPv4 : ∀ interface, Respects R (Station.primaryIPv4 interface : HostM σ IPv4)
  run : ∀ command, Respects R (Station.run command : HostM σ Unit)
  pause : ∀ ms s t, R s t → R (Station.pause ms s) (Station.pause ms t)
  report : ∀ e s t, R s t → R (Station.report e s) (Station.report e t)

namespace IndifferentAnnouncing

variable (hR : IndifferentAnnouncing R) (a : Announcer) (b : AddressBinding) {s t : σ}

include hR

theorem fail (interface : String) (e : HostError) (h : R s t) :
    SameAnswer R (Announcer.fail interface e s) (Announcer.fail interface e t) :=
  .intro _ (hR.report _ s t h)

/-- A look for the interface cannot tell related hosts apart. -/
theorem look (backoff : Backoff) (h : R s t) :
    SameAnswer R (a.look b backoff s) (a.look b backoff t) := by
  have hseen := hR.isPresent (a.sysClassNet.join b.interface) s t h
  unfold Announcer.look
  revert hseen
  generalize FileStore.isPresent (a.sysClassNet.join b.interface) s = x
  generalize FileStore.isPresent (a.sysClassNet.join b.interface) t = y
  rintro ⟨found, h'⟩
  cases found with
  | true =>
    cases b.source with
    | known ip => exact .intro _ h'
    | deferred => exact .intro _ h'
  | false =>
    dsimp only
    split
    · exact hR.fail _ _ h'
    · exact .intro _ (hR.pause _ _ _ h')

theorem resolve (h : R s t) :
    SameAnswer R (Announcer.resolve b s) (Announcer.resolve b t) := by
  have hresult : Alike R (within (.resolveAddress b.interface) (Station.primaryIPv4 b.interface) s)
      (within (.resolveAddress b.interface) (Station.primaryIPv4 b.interface) t) :=
    (hR.primaryIPv4 b.interface).adaptExcept s t h
  unfold Announcer.resolve
  revert hresult
  generalize within (.resolveAddress b.interface) (Station.primaryIPv4 b.interface) s = r
  generalize within (.resolveAddress b.interface) (Station.primaryIPv4 b.interface) t = r'
  rintro (⟨ip, h'⟩ | ⟨e, h'⟩)
  · exact .intro _ h'
  · exact hR.fail _ _ h'

theorem send (ip : IPv4) (sent : Nat) (h : R s t) :
    SameAnswer R (a.send b ip sent s) (a.send b ip sent t) := by
  have hresult :
      Alike R (within (.announce ip b.interface) (Station.run (arpingCommand b.interface ip)) s)
        (within (.announce ip b.interface) (Station.run (arpingCommand b.interface ip)) t) :=
    (hR.run (arpingCommand b.interface ip)).adaptExcept s t h
  unfold Announcer.send
  revert hresult
  generalize within (.announce ip b.interface) (Station.run (arpingCommand b.interface ip)) s = r
  generalize within (.announce ip b.interface) (Station.run (arpingCommand b.interface ip)) t = r'
  rintro (⟨u, h'⟩ | ⟨e, h'⟩)
  · dsimp only
    split
    · exact .intro _ (hR.pause _ _ _ h')
    · exact .intro _ (hR.report _ _ _ h')
  · exact hR.fail _ _ h'

/-- A whole announcement cannot tell related hosts apart, because no step of it can. -/
theorem finish (stage : Stage) (h : R s t) :
    SameAnswer R (a.finish b stage s) (a.finish b stage t) := by
  fun_induction a.finish b stage s generalizing t with
  | case1 s outcome =>
    rw [Announcer.finish]
    exact .intro _ h
  | case2 s backoff _ ih =>
    have hstep := hR.look a b backoff h
    rw [Announcer.finish, hstep.fst_eq]
    exact ih hstep.snd
  | case3 s _ ih =>
    have hstep := hR.resolve b h
    rw [Announcer.finish, hstep.fst_eq]
    exact ih hstep.snd
  | case4 s ip sent _ ih =>
    have hstep := hR.send a b ip sent h
    rw [Announcer.finish, hstep.fst_eq]
    exact ih hstep.snd

/-- Announcements one after the other respect the relation if each of them does. -/
theorem announceAll (bs : List AddressBinding) (h : R s t) :
    SameAnswer R (a.announceAll bs s) (a.announceAll bs t) := by
  induction bs generalizing s t with
  | nil => exact .intro [] h
  | cons b bs ih =>
    have hfirst : SameAnswer R (a.announce b s) (a.announce b t) := hR.finish a b a.start h
    rw [Announcer.announceAll, Announcer.announceAll]
    revert hfirst
    generalize a.announce b s = x
    generalize a.announce b t = y
    rintro @⟨outcome, s', t', h'⟩
    have hrest := ih h'
    dsimp only
    revert hrest
    generalize a.announceAll bs s' = x
    generalize a.announceAll bs t' = y
    rintro ⟨failures, h''⟩
    cases outcome with
    | ok ip => exact .intro _ h''
    | error e => exact .intro _ h''

theorem broadcast (bs : List AddressBinding) : Respects R (a.broadcast bs : HostM σ Unit) := by
  intro s t h
  have hall := hR.announceAll a bs h
  unfold Announcer.broadcast
  revert hall
  generalize a.announceAll bs s = x
  generalize a.announceAll bs t = y
  rintro ⟨failures, h'⟩
  cases failures with
  | nil => exact .ok () h'
  | cons e failures => exact .error e h'

end IndifferentAnnouncing

end NetReconcile
