import NetReconcile.Proofs.Announce.Threads

/-!
# What announcements side by side come to

When the main thread of a broadcast returns, every thread has ended, the commands and the lookups
are those of all announcements taken together, and the error is one of an announcement that fails,
namely the one that was sent first. It does return: every step leaves fewer steps to take, and until
it has returned some thread can go on. Making the announcements one after the other is one of the
ways in which the threads can take turns.

## Main definitions

* `Announcer.Reaches`: a state of all threads is reached from another by steps of any of them.
* `Announcer.left`: at most how many steps are left.
* `Announcer.SideBySide`: what the announcements of some bindings side by side come to.

## Main statements

* `Announcer.left_lt_of_step`: every step leaves fewer steps to take.
* `Announcer.Consistent.exists_step`: some thread can go on.
* `Announcer.reaches_broadcast`: making announcements one after the other is one way.
* `Announcer.sideBySide_of_independent`: independent announcements come to what `SideBySide` says.
-/

namespace NetReconcile

open MemoryHost

/-- The main thread has returned what an operation has answered, and has left its host. -/
def Round.HasReturned {σ : Type} (r : Round σ) : EStateM.Result HostError σ Unit → Prop
  | .ok _ host => r.main = .returned (.ok ()) ∧ r.host = host
  | .error e host => r.main = .returned (.error e) ∧ r.host = host

namespace Announcer

/-! ### Any number of steps -/

/-- One state of all threads is reached from another by any number of steps, of any threads in any
order. -/
def Reaches {σ : Type} [Station σ] (a : Announcer) : Round σ → Round σ → Prop :=
  Relation.ReflTransGen a.Step

/-- At most how many steps a thread has left. -/
def Worker.left (a : Announcer) (w : Worker) : Nat :=
  match w.phase with
  | .announcing stage => a.remaining stage + 2
  | .leaving => 1
  | .gone => 0

/-- At most how many steps the main thread and the threads that it has yet to start have left. -/
def MainPhase.left (a : Announcer) : MainPhase → Nat
  | .starting bs => bs.length * (a.remaining a.start + 3) + 2
  | .waiting => 1
  | .returned _ => 0

/-- At most how many steps all threads have left. -/
def left {σ : Type} (a : Announcer) (r : Round σ) : Nat :=
  MainPhase.left a r.main + (r.workers.map (Worker.left a)).sum

section

variable {a : Announcer} {h : MemoryHost} {bs : List AddressBinding} {r r' : Round MemoryHost}

/-- However many steps any of the threads take, what holds at the beginning holds. -/
theorem consistent_of_reaches (hind : a.Independent h bs) (hr : a.Reaches (opening bs h) r) :
    a.Consistent h bs r := by
  induction hr with
  | refl => exact consistent_opening hind
  | tail _ hstep ih => exact ih.step hstep

/-- Every step leaves fewer steps to take. -/
theorem left_lt_of_step (hstep : a.Step r r') : a.left r' < a.left r := by
  cases hstep with
  | start host b bs workers shares channel =>
    simp only [left, MainPhase.left, List.map_append, List.map_cons, List.map_nil, List.sum_append,
      List.sum_cons, List.sum_nil, List.length_cons, Worker.left, Nat.succ_mul]
    omega
  | await => simp [left, MainPhase.left]
  | receive => simp [left, MainPhase.left]
  | announce host main before after b stage shares channel hstage =>
    have hlt : a.remaining (a.next b stage host).1 < a.remaining stage :=
      remaining_next_lt hstage host
    simp only [left, List.map_append, List.map_cons, List.sum_append, List.sum_cons, Worker.left]
    omega
  | send | pass | leave =>
    simp only [left, List.map_append, List.map_cons, List.sum_append, List.sum_cons, Worker.left]
    omega

/-- No schedule goes on for ever. -/
theorem exists_not_step (run : Nat → Round MemoryHost) : ∃ n, ¬a.Step (run n) (run (n + 1)) := by
  by_contra hall
  have hstep : ∀ n, a.Step (run n) (run (n + 1)) := fun n ↦
    Classical.not_not.1 fun h ↦ hall ⟨n, h⟩
  have hleft : ∀ n, a.left (run n) + n ≤ a.left (run 0) := by
    intro n
    induction n with
    | zero => exact Nat.le_refl _
    | succ n ih =>
      have := left_lt_of_step (hstep n)
      omega
  have := hleft (a.left (run 0) + 1)
  omega

/-- A thread that holds a share can go on. -/
theorem exists_step_of_holdsShare {host : MemoryHost} {main : MainPhase} {workers : List Worker}
    {shares : Nat} {channel : List HostError} {w : Worker} (hw : w ∈ workers)
    (hholds : w.holdsShare = true) :
    ∃ r', a.Step ⟨host, main, workers, shares + 1, channel⟩ r' := by
  obtain ⟨before, after, rfl⟩ := List.append_of_mem hw
  obtain ⟨b, phase⟩ := w
  cases phase with
  | announcing stage =>
    by_cases hended : ∃ outcome, stage = .ended outcome
    · obtain ⟨outcome, rfl⟩ := hended
      cases outcome with
      | ok ip => exact ⟨_, .pass ..⟩
      | error e => exact ⟨_, .send ..⟩
    · have hstage : ∀ outcome, stage ≠ .ended outcome := fun outcome h ↦ hended ⟨outcome, h⟩
      exact ⟨_, .announce _ _ _ _ _ _ _ _ hstage⟩
  | leaving => exact ⟨_, .leave ..⟩
  | gone => cases hholds

/-- Until the main thread returns, some thread can go on. -/
theorem Consistent.exists_step (hc : a.Consistent h bs r) :
    (∃ outcome, r.main = .returned outcome) ∨ ∃ r', a.Step r r' := by
  obtain ⟨host, main, workers, shares, channel⟩ := r
  have hshares : shares = workers.countP (·.holdsShare) + main.shares := hc.shares_eq
  cases main with
  | returned outcome => exact .inl ⟨outcome, rfl⟩
  | starting rest =>
    cases rest with
    | cons b rest => exact .inr ⟨_, .start ..⟩
    | nil =>
      obtain rfl : shares = workers.countP (·.holdsShare) + 1 := hshares
      exact .inr ⟨_, .await ..⟩
  | waiting =>
    cases shares with
    | zero => exact .inr ⟨_, .receive ..⟩
    | succ shares =>
      -- the main thread has given back its share, so another thread holds one
      have hpos : 0 < workers.countP (·.holdsShare) := by
        rw [MainPhase.shares] at hshares
        omega
      obtain ⟨w, hw, hholds⟩ := List.countP_pos_iff.1 hpos
      exact .inr (exists_step_of_holdsShare hw hholds)

/-! ### When the main thread has returned -/

variable {outcome : Except HostError Unit}

/-- When the main thread has returned, every thread has ended. -/
theorem Consistent.gone_of_returned (hc : a.Consistent h bs r)
    (hmain : r.main = .returned outcome) :
    r.workers.map (·.binding) = bs ∧ ∀ w ∈ r.workers, w.phase = .gone := by
  refine ⟨?_, fun w hw ↦ ?_⟩
  · have hbindings := hc.bindings_eq
    rwa [hmain, MainPhase.toStart, List.append_nil] at hbindings
  · cases hphase : w.phase with
    | gone => rfl
    | announcing stage =>
      exact absurd hmain (hc.ne_returned hw (by rw [Worker.holdsShare, hphase]) outcome)
    | leaving => exact absurd hmain (hc.ne_returned hw (by rw [Worker.holdsShare, hphase]) outcome)

/-- When the main thread has returned, the errors of all announcements that fail were sent. -/
theorem Consistent.channel_of_returned (hc : a.Consistent h bs r)
    (hmain : r.main = .returned outcome) :
    (r.channel : Multiset HostError) = bs.filterMap (a.failure? h) := by
  obtain ⟨hbindings, hgone⟩ := hc.gone_of_returned hmain
  rw [hc.channel_eq, ← hbindings, List.filterMap_map]
  congr 1
  refine List.filterMap_congr fun w hw ↦ ?_
  rw [sent?, hgone w hw]
  rfl

/-- When the main thread has returned, a record has what was there before and what all announcements
add alone. -/
theorem Consistent.record_of_returned {α : Type} (hc : a.Consistent h bs r)
    (hmain : r.main = .returned outcome) (rec : Record α) :
    (rec.of r.host : Multiset α) =
      rec.of h + (bs.map fun b ↦ rec.added h (a.announce b h).2).sum := by
  obtain ⟨hbindings, hgone⟩ := hc.gone_of_returned hmain
  have hrec := hc.record_eq rec
  have hnothing : (r.workers.map fun w ↦ rec.added r.host (w.ahead a r.host)).sum = 0 := by
    refine List.sum_eq_zero fun x hx ↦ ?_
    obtain ⟨w, hw, rfl⟩ := List.mem_map.1 hx
    rw [Worker.ahead, hgone w hw, rec.added_self]
  rw [hnothing, add_zero] at hrec
  rw [hrec, ← hbindings, List.map_map]
  rfl

/-- The outcome is a success exactly if every announcement succeeds alone. -/
theorem Consistent.ok_iff_of_returned (hc : a.Consistent h bs r)
    (hmain : r.main = .returned outcome) :
    outcome = .ok () ↔ ∀ b ∈ bs, ∃ ip, (a.announce b h).1 = .ok ip := by
  have hchannel := hc.channel_of_returned hmain
  have hnil : outcome = .ok () ↔ r.channel = [] := by
    rw [(hc.returned_eq outcome hmain).2]
    cases r.channel with
    | nil => simp [received]
    | cons e es => simp [received]
  have hempty : r.channel = [] ↔ bs.filterMap (a.failure? h) = [] := by
    rw [← Multiset.coe_eq_zero, hchannel, Multiset.coe_eq_zero]
  rw [hnil, hempty, List.filterMap_eq_nil_iff]
  exact forall₂_congr fun b _ ↦ errorOf?_eq_none_iff

/-- An outcome that is an error is the one that was sent first, and some announcement comes to it
alone. -/
theorem Consistent.error_of_returned (hc : a.Consistent h bs r) {e : HostError}
    (hmain : r.main = .returned (.error e)) :
    r.channel.head? = some e ∧ ∃ b ∈ bs, (a.announce b h).1 = .error e := by
  have hreceived := (hc.returned_eq _ hmain).2
  have hhead : r.channel.head? = some e := by
    cases hchannel : r.channel with
    | nil =>
      rw [hchannel] at hreceived
      cases hreceived
    | cons e' es =>
      rw [hchannel] at hreceived
      rw [List.head?_cons, Except.error.inj hreceived]
  refine ⟨hhead, ?_⟩
  have hmem : e ∈ (r.channel : Multiset HostError) := List.mem_of_head? hhead
  rw [hc.channel_of_returned hmain, Multiset.mem_coe] at hmem
  obtain ⟨b, hb, hfails⟩ := List.mem_filterMap.1 hmem
  exact ⟨b, hb, errorOf?_eq_some_iff.1 hfails⟩

end

/-! ### One after the other -/

section

variable {σ : Type} [Station σ] {a : Announcer} {b : AddressBinding} {host : σ} {main : MainPhase}
  {before after : List Worker} {shares : Nat} {channel : List HostError}

/-- A thread can go on alone to the end of its announcement. -/
theorem reaches_finish (stage : Stage) (host : σ) :
    a.Reaches ⟨host, main, before ++ ⟨b, .announcing stage⟩ :: after, shares, channel⟩
      ⟨(a.finish b stage host).2, main,
        before ++ ⟨b, .announcing (.ended (a.finish b stage host).1)⟩ :: after, shares,
        channel⟩ := by
  fun_induction a.finish b stage host with
  | case1 host outcome => exact .refl
  | case2 host backoff _ ih => exact .head (.announce _ _ _ _ _ _ _ _ (by simp)) ih
  | case3 host _ ih => exact .head (.announce _ _ _ _ _ _ _ _ (by simp)) ih
  | case4 host ip sent _ ih => exact .head (.announce _ _ _ _ _ _ _ _ (by simp)) ih

/-- A thread can go on alone until it has ended. -/
theorem reaches_gone (host : σ) :
    a.Reaches
      ⟨host, main, before ++ ⟨b, .announcing a.start⟩ :: after, shares + 1, channel⟩
      ⟨(a.announce b host).2, main, before ++ ⟨b, .gone⟩ :: after, shares,
        channel ++ (errorOf? (a.announce b host).1).toList⟩ := by
  refine (reaches_finish a.start host).trans ?_
  show a.Reaches ⟨(a.announce b host).2, main,
    before ++ ⟨b, .announcing (.ended (a.announce b host).1)⟩ :: after, shares + 1, channel⟩ _
  cases (a.announce b host).1 with
  | ok ip =>
    rw [errorOf?, Option.toList_none, List.append_nil]
    exact .head (.pass ..) (.single (.leave ..))
  | error e => exact .head (.send ..) (.single (.leave ..))

/-- Announcing one after the other collects the errors in that order. -/
theorem announceAll_cons (b : AddressBinding) (bs : List AddressBinding) (host : σ) :
    a.announceAll (b :: bs) host =
      ((errorOf? (a.announce b host).1).toList ++ (a.announceAll bs (a.announce b host).2).1,
        (a.announceAll bs (a.announce b host).2).2) := by
  rw [announceAll]
  rcases a.announce b host with ⟨outcome, host'⟩
  cases outcome with
  | ok ip => rfl
  | error e => rfl

/-- The main thread can start the threads one after the other, each of them when the one before it
has ended. -/
theorem reaches_announceAll (bs : List AddressBinding) (host : σ) (workers : List Worker)
    (channel : List HostError) :
    a.Reaches ⟨host, .starting bs, workers, 1, channel⟩
      ⟨(a.announceAll bs host).2, .starting [], workers ++ bs.map (⟨·, .gone⟩), 1,
        channel ++ (a.announceAll bs host).1⟩ := by
  induction bs generalizing host workers channel with
  | nil =>
    rw [announceAll, List.map_nil, List.append_nil, List.append_nil]
    exact .refl
  | cons b bs ih =>
    have hfirst : a.Reaches ⟨host, .starting bs, workers ++ [⟨b, .announcing a.start⟩], 2, channel⟩
        ⟨(a.announce b host).2, .starting bs, workers ++ [⟨b, .gone⟩], 1,
          channel ++ (errorOf? (a.announce b host).1).toList⟩ := reaches_gone host
    have hrest := ih (a.announce b host).2 (workers ++ [⟨b, .gone⟩])
      (channel ++ (errorOf? (a.announce b host).1).toList)
    rw [List.append_assoc, List.append_assoc] at hrest
    rw [announceAll_cons]
    exact .head (.start ..) (hfirst.trans hrest)

/-- Making the announcements one after the other is one of the ways in which the threads can take
turns. -/
theorem reaches_broadcast (bs : List AddressBinding) (host : σ) :
    ∃ r, a.Reaches (opening bs host) r ∧ r.HasReturned (a.broadcast bs host) := by
  have hreaches : a.Reaches (opening bs host)
      ⟨(a.announceAll bs host).2, .returned (received (a.announceAll bs host).1),
        bs.map (⟨·, .gone⟩), 0, (a.announceAll bs host).1⟩ :=
    (reaches_announceAll bs host [] []).trans (.head (.await ..) (.single (.receive ..)))
  refine ⟨_, hreaches, ?_⟩
  rw [broadcast]
  rcases a.announceAll bs host with ⟨failures, host'⟩
  cases failures with
  | nil => exact ⟨rfl, rfl⟩
  | cons e failures => exact ⟨rfl, rfl⟩

end

/-! ### Any schedule -/

/-- What the announcements of some bindings on a host come to when they are made side by side, in
whatever order the threads take turns. -/
structure SideBySide (a : Announcer) (bs : List AddressBinding) (h : MemoryHost) : Prop where
  /-- The threads do not go on for ever. -/
  ends : ∀ run : Nat → Round MemoryHost, run 0 = opening bs h →
    ∃ n, ¬a.Step (run n) (run (n + 1))
  /-- They do not stop before the main thread returns. -/
  proceeds : ∀ r, a.Reaches (opening bs h) r →
    (∃ outcome, r.main = .returned outcome) ∨ ∃ r', a.Step r r'
  /-- The main thread returns only after every thread has ended. -/
  complete : ∀ r outcome, a.Reaches (opening bs h) r → r.main = .returned outcome →
    r.workers.map (·.binding) = bs ∧ ∀ w ∈ r.workers, w.phase = .gone
  /-- It returns no error just if every announcement alone succeeds. -/
  ok_iff : ∀ r outcome, a.Reaches (opening bs h) r → r.main = .returned outcome →
    (outcome = .ok () ↔ ∀ b ∈ bs, ∃ ip, (a.announce b h).1 = .ok ip)
  /-- An error that it returns was sent first, and is that of an announcement that fails alone. -/
  error : ∀ r e, a.Reaches (opening bs h) r → r.main = .returned (.error e) →
    r.channel.head? = some e ∧ ∃ b ∈ bs, (a.announce b h).1 = .error e
  /-- The commands are those that the announcements alone run. -/
  commands_eq : ∀ r outcome, a.Reaches (opening bs h) r → r.main = .returned outcome →
    (r.host.commands : Multiset (List String)) = h.commands +
      (bs.map fun b ↦ Record.commands.added h (a.announce b h).2).sum
  /-- The lookups are those that the announcements alone make. -/
  lookups_eq : ∀ r outcome, a.Reaches (opening bs h) r → r.main = .returned outcome →
    (r.host.lookups : Multiset String) = h.lookups +
      (bs.map fun b ↦ Record.lookups.added h (a.announce b h).2).sum
  /-- One after the other is one of the orders. -/
  broadcast : ∃ r, a.Reaches (opening bs h) r ∧ r.HasReturned (a.broadcast bs h)

/-- Announcements of which no two wait for one entry come, side by side and in whatever order the
threads take turns, to what they come to alone. -/
theorem sideBySide_of_independent {a : Announcer} {bs : List AddressBinding} {h : MemoryHost}
    (hind : a.Independent h bs) : a.SideBySide bs h where
  ends run _ := exists_not_step run
  proceeds _ hr := (consistent_of_reaches hind hr).exists_step
  complete _ _ hr hmain := (consistent_of_reaches hind hr).gone_of_returned hmain
  ok_iff _ _ hr hmain := (consistent_of_reaches hind hr).ok_iff_of_returned hmain
  error _ _ hr hmain := (consistent_of_reaches hind hr).error_of_returned hmain
  commands_eq _ _ hr hmain := (consistent_of_reaches hind hr).record_of_returned hmain .commands
  lookups_eq _ _ hr hmain := (consistent_of_reaches hind hr).record_of_returned hmain .lookups
  broadcast := reaches_broadcast bs h

/-- A host on which one interface appears late, and another one is there without an address. -/
def lateLink : MemoryHost where
  appearing := [(⟨"/sys/class/net/eth0"⟩, 3), (⟨"/sys/class/net/eth1"⟩, 0)]

/-- Bindings of which one waits for its interface and the other one fails. -/
def lateBindings : List AddressBinding :=
  [⟨"eth0", .known ⟨0x0a000001⟩⟩, ⟨"eth1", .deferred⟩]

/-- A host on which one interface has yet to appear and another cannot be announced. -/
theorem sideBySide_lateBindings :
    Independent {} lateLink lateBindings ∧ SideBySide {} lateBindings lateLink := by
  have hname : ∀ b ∈ lateBindings, FilePath.IsName b.interface := by
    simp only [lateBindings, List.mem_cons, List.not_mem_nil, or_false, forall_eq_or_imp,
      forall_eq]
    exact ⟨⟨by decide, by decide⟩, by decide, by decide⟩
  have hind : Independent {} lateLink lateBindings :=
    independent_of_names hname (by simp [lateBindings]) _
  exact ⟨hind, sideBySide_of_independent hind⟩

end Announcer

end NetReconcile
