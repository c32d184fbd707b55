import Mathlib.Algebra.BigOperators.Group.Multiset.Basic
import Mathlib.Tactic.Abel
import NetReconcile.Announce.Threads
import NetReconcile.Proofs.Announce.Footprint
import NetReconcile.Proofs.FilePath

/-!
# What holds while announcements are made side by side

However the threads of a broadcast take turns, each of them does what it would do alone, because no
step of one is seen by another. This is said of every state that the threads come to, in
`Announcer.Consistent`, and a step of any thread keeps it.

Two threads are seen by each other only if they wait for one entry that appears after a number of
looks. An interface is known by its entry, so bindings for different interfaces never do.

## Main definitions

* `Announcer.Independent`: no two announcements wait for one entry.
* `Record`: a record of a host that announcements add to.
* `Announcer.Consistent`: what holds after any number of steps.

## Main statements

* `Announcer.independent_of_names`: interfaces of different names are independent.
* `Announcer.exists_finish_eq`: whole announcements on hosts that look the same come to the same.
* `Announcer.Consistent.step`: a step of any thread keeps what holds.

## What is preserved

Besides the bookkeeping of shares, `Consistent` says three things of a state. Every thread that
still announces would come, from the stage that it is in and on the host as it is now, to what its
announcement comes to alone on the host of the beginning. What has been added to each record,
together with what the threads would still add, is what all announcements add. And the channel holds
the errors of the threads that have sent theirs. A step of one thread moves a part of what is ahead
of it to what has been added; that the others do not notice is `SameFor.of_fits`.
-/

namespace NetReconcile

open MemoryHost

/-! ### Independent announcements -/

namespace Announcer

/-- The announcements of two bindings do not both wait for one entry. -/
def Apart (a : Announcer) (h : MemoryHost) (b c : AddressBinding) : Prop :=
  (a.entry b).same (a.entry c) = false ∨ h.Steady (a.entry c)

/-- No two announcements wait for one entry. -/
def Independent (a : Announcer) (h : MemoryHost) (bs : List AddressBinding) : Prop :=
  bs.Pairwise (a.Apart h)

section

variable {a : Announcer} {h : MemoryHost} {b c : AddressBinding} {f : Footprint}

/-- Whether two announcements wait for one entry has no order. -/
theorem Apart.symm (hbc : a.Apart h b c) : a.Apart h c b := by
  cases hsame : (a.entry b).same (a.entry c) with
  | false => exact .inl (by rw [FilePath.same_comm, hsame])
  | true =>
    rcases hbc with hne | hsteady
    · rw [hsame] at hne
      cases hne
    · refine .inr fun misses ↦ ?_
      rw [PathMap.get?_congr _ hsame]
      exact hsteady misses

/-- Different entries are independent, whatever the host. -/
theorem independent_of_entries {bs : List AddressBinding}
    (hbs : bs.Pairwise fun b c ↦ (a.entry b).same (a.entry c) = false) (h : MemoryHost) :
    a.Independent h bs :=
  hbs.imp .inl

/-- Interfaces of different names are independent, whatever the host. -/
theorem independent_of_names {bs : List AddressBinding}
    (hname : ∀ b ∈ bs, FilePath.IsName b.interface) (hnodup : (bs.map (·.interface)).Nodup)
    (h : MemoryHost) : a.Independent h bs := by
  refine independent_of_entries (List.Pairwise.imp_of_mem ?_ (List.pairwise_map.1 hnodup)) h
  intro b c hb hc hne
  refine Bool.eq_false_iff.2 fun hsame ↦ hne ?_
  exact (FilePath.same_join_iff a.sysClassNet (hname b hb) (hname c hc)).1 hsame

/-- Every one of independent announcements is apart from all others. -/
theorem apart_of_mem {bs cs : List AddressBinding} (hind : a.Independent h (bs ++ b :: cs)) :
    ∀ c ∈ bs ++ cs, a.Apart h b c := by
  obtain ⟨-, hcs, hbs⟩ := List.pairwise_append.1 hind
  intro c hc
  rcases List.mem_append.1 hc with hc | hc
  · exact (hbs c hc b List.mem_cons_self).symm
  · exact (List.pairwise_cons.1 hcs).1 c hc

/-- Waiting for an entry does not make any other one waited for. -/
theorem Independent.onto {bs : List AddressBinding} {path : FilePath}
    (hind : a.Independent h bs) (hf : f.Fits path h) : a.Independent (f.onto h) bs := by
  refine hind.imp fun {b c} hbc ↦ ?_
  rcases hbc with hne | hsteady
  · exact .inl hne
  · refine .inr fun misses ↦ ?_
    rw [get?_appearing_onto hf (.inr hsteady)]
    exact hsteady misses

end

end Announcer

/-! ### Records that announcements add to -/

/-- A record of a host in memory, and what a footprint adds to it. -/
structure Record (α : Type) where
  of : MemoryHost → List α
  part : Footprint → List α
  of_onto : ∀ f h, of (Footprint.onto f h) = of h ++ part f

namespace Record

/-- The commands that were run. -/
def commands : Record (List String) where
  of := MemoryHost.commands
  part := Footprint.commands
  of_onto f h := by
    have hrun : (f.commands.map Effect.run).filterMap Effect.command? = f.commands := by
      rw [List.filterMap_map]
      exact List.filterMap_some
    rw [MemoryHost.commands, MemoryHost.commands, Footprint.onto, List.filterMap_append, hrun]

/-- The addresses that were looked up, by their interfaces. -/
def lookups : Record String where
  of := MemoryHost.lookups
  part := Footprint.lookups
  of_onto _ _ := rfl

variable {α : Type}

/-- What was added to a record, without order. -/
def added (rec : Record α) (h h' : MemoryHost) : Multiset α :=
  ((rec.of h').drop (rec.of h).length : List α)

variable {rec : Record α} {h h' : MemoryHost}

/-- What a record has gained is known when the record is known to have grown by it. -/
theorem added_eq {xs : List α} (heq : rec.of h' = rec.of h ++ xs) : rec.added h h' = xs := by
  rw [added, heq, List.drop_left]

@[simp]
theorem added_self (rec : Record α) (h : MemoryHost) : rec.added h h = 0 := by
  rw [rec.added_eq (List.append_nil _).symm]
  rfl

end Record

/-! ### Whole announcements on hosts that look the same -/

namespace Announcer

variable {a : Announcer} {b : AddressBinding} {h k : MemoryHost}

/-- Whole announcements on hosts that look the same have the same outcome and add the same to a
record. -/
theorem exists_finish_eq {α : Type} (rec : Record α) (hs : SameFor a b h k) (stage : Stage) :
    ∃ xs, (a.finish b stage k).1 = (a.finish b stage h).1 ∧
      rec.of (a.finish b stage h).2 = rec.of h ++ xs ∧
      rec.of (a.finish b stage k).2 = rec.of k ++ xs := by
  induction hn : a.remaining stage using Nat.strongRecOn generalizing stage h k with
  | ind n ih =>
    by_cases hended : ∃ outcome, stage = .ended outcome
    · obtain ⟨outcome, rfl⟩ := hended
      exact ⟨[], by simp [finish_ended]⟩
    · have hstage : ∀ outcome, stage ≠ .ended outcome := fun outcome h ↦ hended ⟨outcome, h⟩
      obtain ⟨stage', f, hh, hk, -⟩ := actsAlike_next hs stage
      have hlt : a.remaining stage' < n := by
        have hnext : a.remaining (a.next b stage h).1 < a.remaining stage :=
          remaining_next_lt hstage h
        rwa [hh, hn] at hnext
      obtain ⟨xs, houtcome, hxs, hxs'⟩ := ih _ hlt (hs.onto f) stage' rfl
      rw [finish_eq_finish_next hstage h, finish_eq_finish_next hstage k, hh, hk]
      refine ⟨rec.part f ++ xs, houtcome, ?_, ?_⟩
      · rw [hxs, rec.of_onto, List.append_assoc]
      · rw [hxs', rec.of_onto, List.append_assoc]

/-- An announcement comes to the same on hosts that look the same to it. -/
theorem finish_fst_eq (hs : SameFor a b h k) (stage : Stage) :
    (a.finish b stage k).1 = (a.finish b stage h).1 := by
  obtain ⟨-, houtcome, -⟩ := exists_finish_eq Record.lookups hs stage
  exact houtcome

/-- An announcement adds the same to every record of hosts that look the same to it. -/
theorem added_finish_eq {α : Type} (rec : Record α) (hs : SameFor a b h k) (stage : Stage) :
    rec.added k (a.finish b stage k).2 = rec.added h (a.finish b stage h).2 := by
  obtain ⟨xs, -, hxs, hxs'⟩ := exists_finish_eq rec hs stage
  rw [rec.added_eq hxs, rec.added_eq hxs']

/-- What an announcement adds is what its next step adds, and what is added from there. -/
theorem added_finish_next {α : Type} (rec : Record α) {stage stage' : Stage} {f : Footprint}
    (hstage : ∀ outcome, stage ≠ .ended outcome) (hnext : a.next b stage h = (stage', f.onto h)) :
    rec.added h (a.finish b stage h).2 =
      rec.part f + rec.added (f.onto h) (a.finish b stage' (f.onto h)).2 := by
  obtain ⟨xs, -, hxs, -⟩ := exists_finish_eq rec (SameFor.refl a b (f.onto h)) stage'
  have hall : rec.of (a.finish b stage h).2 = rec.of h ++ (rec.part f ++ xs) := by
    rw [finish_eq_finish_next hstage h, hnext, hxs, rec.of_onto, List.append_assoc]
  rw [rec.added_eq hall, rec.added_eq hxs]
  rfl

end Announcer

/-! ### What holds after any number of steps -/

/-- The host that a thread leaves if it goes on alone to the end of its announcement. -/
def Worker.ahead (a : Announcer) (w : Worker) (h : MemoryHost) : MemoryHost :=
  match w.phase with
  | .announcing stage => (a.finish w.binding stage h).2
  | .leaving | .gone => h

@[simp]
theorem Worker.ahead_announcing (a : Announcer) (b : AddressBinding) (stage : Stage)
    (h : MemoryHost) : Worker.ahead a ⟨b, .announcing stage⟩ h = (a.finish b stage h).2 :=
  rfl

@[simp]
theorem Worker.ahead_leaving (a : Announcer) (b : AddressBinding) (h : MemoryHost) :
    Worker.ahead a ⟨b, .leaving⟩ h = h :=
  rfl

@[simp]
theorem Worker.ahead_gone (a : Announcer) (b : AddressBinding) (h : MemoryHost) :
    Worker.ahead a ⟨b, .gone⟩ h = h :=
  rfl

/-- Whether a thread holds a share of the wait group. -/
def Worker.holdsShare (w : Worker) : Bool :=
  match w.phase with
  | .announcing _ | .leaving => true
  | .gone => false

/-- The bindings for which no thread was started yet. -/
def MainPhase.toStart : MainPhase → List AddressBinding
  | .starting bs => bs
  | .waiting | .returned _ => []

/-- How many shares of the wait group the main thread holds. -/
def MainPhase.shares : MainPhase → Nat
  | .starting _ => 1
  | .waiting | .returned _ => 0

namespace Announcer

/-- The error of an outcome, if it is one. -/
def errorOf? {α : Type} : Except HostError α → Option HostError
  | .ok _ => none
  | .error e => some e

theorem errorOf?_eq_some_iff {α : Type} {outcome : Except HostError α} {e : HostError} :
    errorOf? outcome = some e ↔ outcome = .error e := by
  cases outcome with
  | ok a => simp [errorOf?]
  | error e' => simp [errorOf?]

/-- An announcement has no error exactly if it succeeds. -/
theorem errorOf?_eq_none_iff {α : Type} {outcome : Except HostError α} :
    errorOf? outcome = none ↔ ∃ a, outcome = .ok a := by
  cases outcome with
  | ok a => simp [errorOf?]
  | error e => simp [errorOf?]

/-- The error with which an announcement alone fails. -/
def failure? (a : Announcer) (h : MemoryHost) (b : AddressBinding) : Option HostError :=
  errorOf? (a.announce b h).1

/-- The error that a thread has sent. -/
def sent? (a : Announcer) (h : MemoryHost) (w : Worker) : Option HostError :=
  match w.phase with
  | .announcing _ => none
  | .leaving | .gone => a.failure? h w.binding

section

variable (a : Announcer) (h : MemoryHost) (b : AddressBinding)

@[simp]
theorem sent?_announcing (stage : Stage) : a.sent? h ⟨b, .announcing stage⟩ = none :=
  rfl

@[simp]
theorem sent?_leaving : a.sent? h ⟨b, .leaving⟩ = a.failure? h b :=
  rfl

@[simp]
theorem sent?_gone : a.sent? h ⟨b, .gone⟩ = a.failure? h b :=
  rfl

end

/-- What holds after any number of steps, of any threads in any order, that were taken from before
any thread was started. `h` is the host at that time. -/
structure Consistent (a : Announcer) (h : MemoryHost) (bs : List AddressBinding)
    (r : Round MemoryHost) : Prop where
  /-- There is a thread for every binding up to some point, in order. -/
  bindings_eq : r.workers.map (·.binding) ++ r.main.toStart = bs
  /-- Shares are held by threads that have not ended. -/
  shares_eq : r.shares = r.workers.countP (·.holdsShare) + r.main.shares
  independent : a.Independent r.host bs
  /-- What was done is not seen by threads that are still to be started. -/
  sameFor : ∀ b ∈ r.main.toStart, SameFor a b h r.host
  /-- Every announcement comes to what it comes to alone. -/
  outcome_eq : ∀ w ∈ r.workers, ∀ stage, w.phase = .announcing stage →
    (a.finish w.binding stage r.host).1 = (a.announce w.binding h).1
  /-- The errors that were sent are in the channel, and no others. -/
  channel_eq : (r.channel : Multiset HostError) = r.workers.filterMap (a.sent? h)
  /-- What is in a record, together with what threads are still going to add, was there before or is
  what their announcements add alone. -/
  record_eq : ∀ {α : Type} (rec : Record α),
    (rec.of r.host : Multiset α) +
        (r.workers.map fun w ↦ rec.added r.host (w.ahead a r.host)).sum =
      rec.of h + (r.workers.map fun w ↦ rec.added h (a.announce w.binding h).2).sum
  returned_eq : ∀ outcome, r.main = .returned outcome →
    r.shares = 0 ∧ outcome = received r.channel

section

variable {a : Announcer} {h : MemoryHost} {bs : List AddressBinding} {r r' : Round MemoryHost}

/-- Before any step there is nothing that could disagree. -/
theorem consistent_opening (hind : a.Independent h bs) : a.Consistent h bs (opening bs h) where
  bindings_eq := rfl
  shares_eq := rfl
  independent := hind
  sameFor b _ := .refl a b h
  outcome_eq := by simp [opening]
  channel_eq := rfl
  record_eq := by simp [opening]
  returned_eq := by simp [opening]

/-- What a thread is still going to add is the same on hosts that look the same. -/
theorem added_ahead_eq {α : Type} (rec : Record α) {w : Worker} {k : MemoryHost}
    (hs : SameFor a w.binding h k) :
    rec.added k (w.ahead a k) = rec.added h (w.ahead a h) := by
  unfold Worker.ahead
  cases w.phase with
  | announcing stage => exact added_finish_eq rec hs stage
  | leaving => simp
  | gone => simp

/-- A thread that is still announcing was there before another one got past its announcement. -/
theorem mem_of_announcing {before after : List Worker} {w old new : Worker} {stage : Stage}
    (hw : w ∈ before ++ new :: after) (hphase : w.phase = .announcing stage)
    (hnew : new.phase ≠ .announcing stage) : w ∈ before ++ old :: after := by
  rcases List.mem_append.1 hw with hw | hw
  · exact List.mem_append_left _ hw
  · rcases List.mem_cons.1 hw with rfl | hw
    · exact absurd hphase hnew
    · exact List.mem_append_right _ (List.mem_cons_of_mem _ hw)

/-- A step of one announcement changes nothing that the other threads do. -/
theorem Consistent.announce {host : MemoryHost} {main : MainPhase} {before after : List Worker}
    {b : AddressBinding} {stage : Stage} {shares : Nat} {channel : List HostError}
    (hstage : ∀ outcome, stage ≠ .ended outcome)
    (hc : a.Consistent h bs
      ⟨host, main, before ++ ⟨b, .announcing stage⟩ :: after, shares, channel⟩) :
    a.Consistent h bs ⟨(a.next b stage host).2, main,
      before ++ ⟨b, .announcing (a.next b stage host).1⟩ :: after, shares, channel⟩ := by
  obtain ⟨stage', f, hnext, -, hfits⟩ := actsAlike_next (SameFor.refl a b host) stage
  -- every other binding belongs to a thread before, a thread after, or none yet
  have hbs : bs = before.map (·.binding) ++ b :: (after.map (·.binding) ++ main.toStart) := by
    rw [← hc.bindings_eq]
    simp
  have hapart := apart_of_mem (hbs ▸ hc.independent)
  have hunseen : ∀ c ∈ before.map (·.binding) ++ (after.map (·.binding) ++ main.toStart),
      SameFor a c host (f.onto host) := fun c hmem ↦ .of_fits hfits (hapart c hmem)
  have hothers : ∀ w ∈ before ++ after, SameFor a w.binding host (f.onto host) := by
    intro w hw
    refine hunseen w.binding ?_
    rw [← List.append_assoc, ← List.map_append]
    exact List.mem_append_left _ (List.mem_map_of_mem hw)
  rw [hnext]
  exact {
    bindings_eq := by simpa using hc.bindings_eq
    shares_eq := by simpa [Worker.holdsShare] using hc.shares_eq
    independent := hc.independent.onto hfits
    sameFor := fun c hmem ↦ (hc.sameFor c hmem).trans (hunseen c (by simp [hmem]))
    outcome_eq := by
      intro w hw other hphase
      rcases List.mem_append.1 hw with hw | hw
      · rw [finish_fst_eq (hothers w (List.mem_append_left _ hw))]
        exact hc.outcome_eq w (List.mem_append_left _ hw) other hphase
      · rcases List.mem_cons.1 hw with rfl | hw
        · obtain rfl : stage' = other := Worker.Phase.announcing.inj hphase
          have halone := hc.outcome_eq ⟨b, .announcing stage⟩ (by simp) stage rfl
          rwa [finish_eq_finish_next hstage, hnext] at halone
        · rw [finish_fst_eq (hothers w (List.mem_append_right _ hw))]
          exact hc.outcome_eq w (List.mem_append_right _ (List.mem_cons_of_mem _ hw)) other hphase
    channel_eq := by simpa [List.filterMap_cons] using hc.channel_eq
    record_eq := by
      intro α rec
      have hrec := hc.record_eq rec
      have hbefore := List.map_congr_left fun w hw ↦
        added_ahead_eq rec (hothers w (List.mem_append_left after hw))
      have hafter := List.map_congr_left fun w hw ↦
        added_ahead_eq rec (hothers w (List.mem_append_right before hw))
      have hb := added_finish_next rec hstage hnext
      simp only [List.map_append, List.map_cons, List.sum_append, List.sum_cons,
        Worker.ahead_announcing] at hrec ⊢
      rw [← hrec, hbefore, hafter, rec.of_onto, hb, ← Multiset.coe_add]
      abel
    returned_eq := hc.returned_eq }

/-- While a thread holds a share, the main thread has not returned. -/
theorem Consistent.ne_returned (hc : a.Consistent h bs r) {w : Worker} (hw : w ∈ r.workers)
    (hholds : w.holdsShare = true) (outcome : Except HostError Unit) :
    r.main ≠ .returned outcome := by
  intro hmain
  have hpos : 0 < r.workers.countP (·.holdsShare) := List.countP_pos_iff.2 ⟨w, hw, hholds⟩
  have hshares := hc.shares_eq
  have hzero := (hc.returned_eq outcome hmain).1
  omega

/-- Starting one more thread keeps what holds: the thread has done nothing yet, and all of its
announcement is ahead. -/
theorem Consistent.start {host : MemoryHost} {b : AddressBinding} {rest : List AddressBinding}
    {workers : List Worker} {shares : Nat} {channel : List HostError}
    (hc : a.Consistent h bs ⟨host, .starting (b :: rest), workers, shares, channel⟩) :
    a.Consistent h bs
      ⟨host, .starting rest, workers ++ [⟨b, .announcing a.start⟩], shares + 1, channel⟩ := by
  have hsame : SameFor a b h host := hc.sameFor b List.mem_cons_self
  exact {
    bindings_eq := by simpa [MainPhase.toStart] using hc.bindings_eq
    shares_eq := by
      have hshares := hc.shares_eq
      simp only [MainPhase.shares, List.countP_append, List.countP_singleton,
        Worker.holdsShare] at hshares ⊢
      simp only [if_true]
      omega
    independent := hc.independent
    sameFor := fun c hmem ↦ hc.sameFor c (List.mem_cons_of_mem _ hmem)
    outcome_eq := by
      intro w hw stage hphase
      rcases List.mem_append.1 hw with hw | hw
      · exact hc.outcome_eq w hw stage hphase
      · obtain rfl := List.mem_singleton.1 hw
        obtain rfl : a.start = stage := Worker.Phase.announcing.inj hphase
        exact finish_fst_eq hsame a.start
    channel_eq := by simpa [List.filterMap_cons] using hc.channel_eq
    record_eq := by
      intro α rec
      have hrec := hc.record_eq rec
      have hb : rec.added host (a.finish b a.start host).2 = rec.added h (a.announce b h).2 :=
        added_finish_eq rec hsame a.start
      simp only [List.map_append, List.map_cons, List.map_nil, List.sum_append, List.sum_cons,
        List.sum_nil, add_zero, Worker.ahead_announcing, hb] at hrec ⊢
      rw [← add_assoc, hrec, add_assoc]
    returned_eq := by simp }

/-- The main thread gives up its share once all threads are started, and does nothing else. -/
theorem Consistent.await {host : MemoryHost} {workers : List Worker} {shares : Nat}
    {channel : List HostError}
    (hc : a.Consistent h bs ⟨host, .starting [], workers, shares + 1, channel⟩) :
    a.Consistent h bs ⟨host, .waiting, workers, shares, channel⟩ where
  bindings_eq := hc.bindings_eq
  shares_eq := Nat.succ.inj hc.shares_eq
  independent := hc.independent
  sameFor := by simp [MainPhase.toStart]
  outcome_eq := hc.outcome_eq
  channel_eq := hc.channel_eq
  record_eq := hc.record_eq
  returned_eq := by simp

/-- The main thread returns when no share is held any more, so when every thread has ended. -/
theorem Consistent.receive {host : MemoryHost} {workers : List Worker} {channel : List HostError}
    (hc : a.Consistent h bs ⟨host, .waiting, workers, 0, channel⟩) :
    a.Consistent h bs ⟨host, .returned (received channel), workers, 0, channel⟩ where
  bindings_eq := hc.bindings_eq
  shares_eq := hc.shares_eq
  independent := hc.independent
  sameFor := by simp [MainPhase.toStart]
  outcome_eq := hc.outcome_eq
  channel_eq := hc.channel_eq
  record_eq := hc.record_eq
  returned_eq outcome hmain := ⟨rfl, (MainPhase.returned.inj hmain).symm⟩

/-- What a thread does after its announcement has ended: it sends what there is to send, and then
gives back its share. -/
theorem Consistent.deal {host : MemoryHost} {main : MainPhase} {before after : List Worker}
    {b : AddressBinding} {outcome : Except HostError IPv4} {shares : Nat}
    {channel : List HostError}
    (hc : a.Consistent h bs
      ⟨host, main, before ++ ⟨b, .announcing (.ended outcome)⟩ :: after, shares, channel⟩) :
    a.Consistent h bs ⟨host, main, before ++ ⟨b, .leaving⟩ :: after, shares,
      channel ++ (a.failure? h b).toList⟩ where
  bindings_eq := by simpa using hc.bindings_eq
  shares_eq := by simpa [Worker.holdsShare] using hc.shares_eq
  independent := hc.independent
  sameFor := hc.sameFor
  outcome_eq w hw stage hphase :=
    hc.outcome_eq w (mem_of_announcing hw hphase nofun) stage hphase
  channel_eq := by
    have hchannel := hc.channel_eq
    -- threads are listed as they were started, errors as they were sent
    simp only [List.filterMap_append, List.filterMap_cons, sent?_announcing, sent?_leaving,
      ← Multiset.coe_add] at hchannel ⊢
    rw [hchannel]
    cases a.failure? h b with
    | none => simp
    | some e =>
      rw [Option.toList_some, Multiset.coe_singleton, ← Multiset.cons_coe,
        ← Multiset.singleton_add]
      abel
  record_eq := by
    intro α rec
    have hrec := hc.record_eq rec
    simp only [List.map_append, List.map_cons, List.sum_append, List.sum_cons,
      Worker.ahead_announcing, finish_ended, Worker.ahead_leaving] at hrec ⊢
    exact hrec
  returned_eq result hmain :=
    absurd hmain
      (hc.ne_returned (List.mem_append_right before List.mem_cons_self) rfl result)

/-- A thread that gives up its share has sent its error already. -/
theorem Consistent.leave {host : MemoryHost} {main : MainPhase} {before after : List Worker}
    {b : AddressBinding} {shares : Nat} {channel : List HostError}
    (hc : a.Consistent h bs
      ⟨host, main, before ++ ⟨b, .leaving⟩ :: after, shares + 1, channel⟩) :
    a.Consistent h bs ⟨host, main, before ++ ⟨b, .gone⟩ :: after, shares, channel⟩ where
  bindings_eq := by simpa using hc.bindings_eq
  shares_eq := by
    have hshares := hc.shares_eq
    simp only [List.countP_append, List.countP_cons, Worker.holdsShare] at hshares ⊢
    simp at hshares ⊢
    omega
  independent := hc.independent
  sameFor := hc.sameFor
  outcome_eq w hw stage hphase :=
    hc.outcome_eq w (mem_of_announcing hw hphase nofun) stage hphase
  channel_eq := by simpa [List.filterMap_cons] using hc.channel_eq
  record_eq := by
    intro α rec
    have hrec := hc.record_eq rec
    simp only [List.map_append, List.map_cons, List.sum_append, List.sum_cons,
      Worker.ahead_leaving, Worker.ahead_gone] at hrec ⊢
    exact hrec
  returned_eq outcome hmain := by
    have hzero := (hc.returned_eq outcome hmain).1
    cases hzero

/-- The error with which an announcement has ended is the one with which it fails alone. -/
theorem Consistent.failure?_eq {host : MemoryHost} {main : MainPhase} {before after : List Worker}
    {b : AddressBinding} {outcome : Except HostError IPv4} {shares : Nat}
    {channel : List HostError}
    (hc : a.Consistent h bs
      ⟨host, main, before ++ ⟨b, .announcing (.ended outcome)⟩ :: after, shares, channel⟩) :
    (a.announce b h).1 = outcome := by
  have halone := hc.outcome_eq ⟨b, .announcing (.ended outcome)⟩ (by simp) _ rfl
  rw [finish_ended] at halone
  exact halone.symm

/-- A step of any thread keeps what holds. -/
theorem Consistent.step (hc : a.Consistent h bs r) (hstep : a.Step r r') :
    a.Consistent h bs r' := by
  cases hstep with
  | start => exact hc.start
  | await => exact hc.await
  | receive => exact hc.receive
  | announce host main before after b stage shares channel hstage => exact hc.announce hstage
  | send host main before after b e shares channel =>
    have hdealt := hc.deal
    rwa [failure?, hc.failure?_eq, errorOf?] at hdealt
  | pass host main before after b ip shares channel =>
    have hdealt := hc.deal
    rwa [failure?, hc.failure?_eq, errorOf?, Option.toList_none, List.append_nil] at hdealt
  | leave => exact hc.leave

end

end Announcer

end NetReconcile
