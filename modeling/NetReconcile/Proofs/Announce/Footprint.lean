import NetReconcile.Proofs.Announce.InMemory

/-!
# What an announcement sees and what it leaves

A step of an announcement looks at little of a host in memory: whether the entry of its interface is
there, which address the interface holds, and which commands are arranged to fail. What it leaves is
an addition to each record, and one look less to wait for the entry. Both are said without the host,
so the same step on two hosts that look the same to the announcement ends in the same stage and
leaves the same, and a step of one announcement is nothing that another one sees, unless both wait
for one entry.

## Main definitions

* `Announcer.entry`: the entry of the interface of a binding.
* `MemoryHost.SameFor`: two hosts look the same to an announcement.
* `Footprint`: what a step leaves.
* `MemoryHost.Steady`: a path that is not waited for.

## Main statements

* `Announcer.actsAlike_next`: steps on hosts that look the same end alike and leave the same.
* `MemoryHost.SameFor.onto`: hosts that look the same still do after such steps.
* `MemoryHost.SameFor.of_fits`: what a step leaves is not seen by other announcements.

## Why footprints

Two runs of one step on different hosts cannot be compared by their results, since the records of
the hosts differ. A footprint is what the step adds, apart from the host to which it is added, so
`ActsAlike` can say that the footprint is the same on both. The only thing that is not an addition
is the number of looks after which an entry appears. A footprint therefore names the path for which
it counts one down, and `Fits` says that the host does wait for that path.
-/

namespace NetReconcile

namespace Announcer

/-- The entry of the interface of a binding in the directory of interfaces. -/
def entry (a : Announcer) (b : AddressBinding) : FilePath :=
  a.sysClassNet.join b.interface

end Announcer

/-! ### What a step leaves -/

/-- What a step of an announcement leaves on a host in memory. -/
structure Footprint where
  /-- A path, and the looks after which it appears from now on. -/
  appearing? : Option (FilePath × Nat) := none
  commands : List (List String) := []
  lookups : List String := []
  polls : List FilePath := []
  pauses : List Nat := []
  events : List Event := []

namespace Footprint

/-- The host on which a footprint was left. -/
def onto (f : Footprint) (h : MemoryHost) : MemoryHost :=
  { h with
    appearing := f.appearing?.elim h.appearing fun a ↦ h.appearing.set a.1 a.2
    effects := h.effects ++ f.commands.map .run
    lookups := h.lookups ++ f.lookups
    polls := h.polls ++ f.polls
    pauses := h.pauses ++ f.pauses
    events := h.events ++ f.events }

theorem report_onto (f : Footprint) (e : Event) (h : MemoryHost) :
    Station.report e (f.onto h) = { f with events := f.events ++ [e] }.onto h := by
  show { f.onto h with events := (f.onto h).events ++ [e] } = _
  simp only [onto, List.append_assoc]

theorem pause_onto (f : Footprint) (ms : Nat) (h : MemoryHost) :
    Station.pause ms (f.onto h) = { f with pauses := f.pauses ++ [ms] }.onto h := by
  show { f.onto h with pauses := (f.onto h).pauses ++ [ms] } = _
  simp only [onto, List.append_assoc]

/-- A footprint that is left by waiting for a path, which is still waited for on the host, or that
changes nothing there. -/
def Fits (f : Footprint) (path : FilePath) (h : MemoryHost) : Prop :=
  ∀ a ∈ f.appearing?, a.1 = path ∧ ∃ misses, h.appearing.get? path = some (misses + 1)

/-- What leaves the entries alone that are waited for fits any path. -/
theorem fits_of_appearing?_eq_none {f : Footprint} (hf : f.appearing? = none) (path : FilePath)
    (h : MemoryHost) : f.Fits path h := by
  rw [Fits, hf]
  simp

end Footprint

namespace MemoryHost

/-- Looking for a path changes nothing, because it is not waited for. -/
def Steady (h : MemoryHost) (path : FilePath) : Prop :=
  ∀ misses, h.appearing.get? path ≠ some (misses + 1)

/-- A footprint that is left by waiting for one path changes nothing for other paths, and nothing
for paths that are not waited for. -/
theorem get?_appearing_onto {f : Footprint} {path other : FilePath} {h : MemoryHost}
    (hf : f.Fits path h) (hother : path.same other = false ∨ h.Steady other) :
    (f.onto h).appearing.get? other = h.appearing.get? other := by
  unfold Footprint.onto
  cases hp : f.appearing? with
  | none => rfl
  | some a =>
    obtain ⟨rfl, misses, hwaits⟩ := hf a (by rw [hp]; rfl)
    refine PathMap.get?_set_of_not_same _ _ ?_
    rcases hother with hother | hsteady
    · exact hother
    · refine Bool.eq_false_iff.2 fun hsame ↦ ?_
      rw [PathMap.get?_congr _ hsame] at hwaits
      exact hsteady misses hwaits

/-- Two hosts look the same to the announcement of a binding. -/
structure SameFor (a : Announcer) (b : AddressBinding) (h k : MemoryHost) : Prop where
  files_eq : k.files = h.files
  links_eq : k.links = h.links
  faults_eq : k.faults = h.faults
  resolvable_eq : k.resolvable = h.resolvable
  appearing_eq : k.appearing.get? (a.entry b) = h.appearing.get? (a.entry b)

namespace SameFor

variable {a : Announcer} {b c : AddressBinding} {f : Footprint} {h k l : MemoryHost}

theorem refl (a : Announcer) (b : AddressBinding) (h : MemoryHost) : SameFor a b h h :=
  ⟨rfl, rfl, rfl, rfl, rfl⟩

theorem trans (hk : SameFor a b h k) (kl : SameFor a b k l) : SameFor a b h l :=
  ⟨kl.files_eq.trans hk.files_eq, kl.links_eq.trans hk.links_eq, kl.faults_eq.trans hk.faults_eq,
    kl.resolvable_eq.trans hk.resolvable_eq, kl.appearing_eq.trans hk.appearing_eq⟩

theorem symm (hs : SameFor a b h k) : SameFor a b k h :=
  ⟨hs.files_eq.symm, hs.links_eq.symm, hs.faults_eq.symm, hs.resolvable_eq.symm,
    hs.appearing_eq.symm⟩

/-- Hosts that look the same still do when the same was left on them. -/
theorem onto (hs : SameFor a b h k) (f : Footprint) : SameFor a b (f.onto h) (f.onto k) := by
  refine ⟨hs.files_eq, hs.links_eq, hs.faults_eq, hs.resolvable_eq, ?_⟩
  unfold Footprint.onto
  cases f.appearing? with
  | none => exact hs.appearing_eq
  | some a =>
    simp only [Option.elim, PathMap.get?_set]
    split
    · rfl
    · exact hs.appearing_eq

/-- What is left at another entry, or at one that is not waited for, is not seen. -/
theorem of_fits {entry : FilePath} (hf : f.Fits entry h)
    (hother : entry.same (a.entry c) = false ∨ h.Steady (a.entry c)) : SameFor a c h (f.onto h) :=
  ⟨rfl, rfl, rfl, rfl, get?_appearing_onto hf hother⟩

end SameFor

/-! ### Looking for an entry -/

/-- What a look for a path sees, if the path appears after a number of looks or not at all, and what
it leaves. -/
theorem isPresent_eq (path : FilePath) (h : MemoryHost) :
    FileStore.isPresent path h = match h.appearing.get? path with
      | some 0 => (true, Footprint.onto { polls := [path] } h)
      | some (misses + 1) =>
        (false, Footprint.onto { appearing? := some (path, misses), polls := [path] } h)
      | none =>
        (h.files.contains path || h.links.contains path,
          Footprint.onto { polls := [path] } h) := by
  show h.isPresent path = _
  cases happears : h.appearing.get? path with
  | none => simp [isPresent, Footprint.onto, happears]
  | some misses =>
    cases misses with
    | zero => simp [isPresent, Footprint.onto, happears]
    | succ misses => simp [isPresent, Footprint.onto, happears]

/-- Looks on hosts that look the same see the same and leave the same. -/
theorem exists_isPresent_eq {a : Announcer} {b : AddressBinding} {h k : MemoryHost}
    (hs : SameFor a b h k) :
    ∃ found f, FileStore.isPresent (a.entry b) h = (found, Footprint.onto f h) ∧
      FileStore.isPresent (a.entry b) k = (found, Footprint.onto f k) ∧ f.Fits (a.entry b) h := by
  have hh := isPresent_eq (a.entry b) h
  have hk := isPresent_eq (a.entry b) k
  rw [hs.appearing_eq, hs.files_eq, hs.links_eq] at hk
  cases hp : h.appearing.get? (a.entry b) with
  | none =>
    rw [hp] at hh hk
    exact ⟨_, _, hh, hk, Footprint.fits_of_appearing?_eq_none rfl _ _⟩
  | some misses =>
    rw [hp] at hh hk
    cases misses with
    | zero => exact ⟨_, _, hh, hk, Footprint.fits_of_appearing?_eq_none rfl _ _⟩
    | succ misses =>
      refine ⟨_, _, hh, hk, fun a' ha' ↦ ?_⟩
      obtain rfl : (a.entry b, misses) = a' := Option.some.inj ha'
      exact ⟨rfl, misses, hp⟩

end MemoryHost

/-! ### Steps -/

namespace Announcer

open MemoryHost

variable {a : Announcer} {b : AddressBinding} {h k : MemoryHost}

/-- `op` does the same on both hosts and leaves the same, which is left by waiting for the entry of
the binding if by waiting at all. -/
def ActsAlike (a : Announcer) (b : AddressBinding) (h k : MemoryHost)
    (op : MemoryHost → Stage × MemoryHost) : Prop :=
  ∃ stage f, op h = (stage, Footprint.onto f h) ∧ op k = (stage, Footprint.onto f k) ∧
    f.Fits (a.entry b) h

/-- A look at hosts that look the same sees the same, and is one look less to wait on both. -/
theorem actsAlike_look (hs : SameFor a b h k) (backoff : Backoff) :
    ActsAlike a b h k (a.look b backoff) := by
  obtain ⟨found, f, hh, hk, hfits⟩ := exists_isPresent_eq hs
  unfold ActsAlike look
  rw [show a.sysClassNet.join b.interface = a.entry b from rfl, hh, hk]
  cases found with
  | true =>
    cases b.source with
    | known ip => exact ⟨_, f, rfl, rfl, hfits⟩
    | deferred => exact ⟨_, f, rfl, rfl, hfits⟩
  | false =>
    dsimp only
    split
    · exact ⟨_, { f with events := _ }, congrArg _ (f.report_onto _ h),
        congrArg _ (f.report_onto _ k), hfits⟩
    · exact ⟨_, { f with pauses := _ }, congrArg _ (f.pause_onto _ h),
        congrArg _ (f.pause_onto _ k), hfits⟩

/-- Looking up comes to the same, because the same address or the same failure is found. -/
theorem actsAlike_resolve (hs : SameFor a b h k) : ActsAlike a b h k (resolve b) := by
  have honto : ∀ g : MemoryHost, { g with lookups := g.lookups ++ [b.interface] } =
      Footprint.onto { lookups := [b.interface] } g := by
    intro g
    simp [Footprint.onto]
  have hh := primaryIPv4_eq b.interface h
  have hk := primaryIPv4_eq b.interface k
  rw [honto] at hh hk
  rw [show k.addressOf? b.interface = h.addressOf? b.interface by
    rw [addressOf?, addressOf?, hs.resolvable_eq]] at hk
  unfold ActsAlike resolve
  cases hf : h.addressOf? b.interface with
  | some ip =>
    rw [hf] at hh hk
    rw [within_of_ok hh, within_of_ok hk]
    exact ⟨_, _, rfl, rfl, Footprint.fits_of_appearing?_eq_none rfl _ _⟩
  | none =>
    rw [hf] at hh hk
    rw [within_of_error hh, within_of_error hk]
    exact ⟨_, { lookups := _, events := _ }, congrArg _ (Footprint.report_onto _ _ h),
      congrArg _ (Footprint.report_onto _ _ k),
      Footprint.fits_of_appearing?_eq_none rfl _ _⟩

/-- Sending comes to the same, because the same commands are arranged to fail. -/
theorem actsAlike_send (hs : SameFor a b h k) (ip : IPv4) (sent : Nat) :
    ActsAlike a b h k (a.send b ip sent) := by
  -- a command is recorded before it succeeds or fails, so it is left on a host in both cases
  have honto : ∀ g : MemoryHost, record (.run (arpingCommand b.interface ip)) g =
      Footprint.onto { commands := [arpingCommand b.interface ip] } g := by
    intro g
    simp [Footprint.onto, record]
  have hh := run_eq (arpingCommand b.interface ip) h
  have hk := run_eq (arpingCommand b.interface ip) k
  rw [honto] at hh hk
  rw [hs.faults_eq] at hk
  unfold ActsAlike send
  cases hf : commandFault? h.faults (arpingCommand b.interface ip) with
  | some message =>
    rw [hf] at hh hk
    rw [within_of_error hh, within_of_error hk]
    exact ⟨_, { commands := _, events := _ }, congrArg _ (Footprint.report_onto _ _ h),
      congrArg _ (Footprint.report_onto _ _ k),
      Footprint.fits_of_appearing?_eq_none rfl _ _⟩
  | none =>
    rw [hf] at hh hk
    rw [within_of_ok hh, within_of_ok hk]
    dsimp only
    split
    · exact ⟨_, { commands := _, pauses := _ }, congrArg _ (Footprint.pause_onto _ _ h),
        congrArg _ (Footprint.pause_onto _ _ k),
        Footprint.fits_of_appearing?_eq_none rfl _ _⟩
    · exact ⟨_, { commands := _, events := _ }, congrArg _ (Footprint.report_onto _ _ h),
        congrArg _ (Footprint.report_onto _ _ k),
        Footprint.fits_of_appearing?_eq_none rfl _ _⟩

/-- Steps of an announcement on hosts that look the same to it end in the same stage and leave the
same. -/
theorem actsAlike_next (hs : SameFor a b h k) (stage : Stage) :
    ActsAlike a b h k (a.next b stage) := by
  cases stage with
  | waiting backoff => exact actsAlike_look hs backoff
  | resolving => exact actsAlike_resolve hs
  | sending ip sent => exact actsAlike_send hs ip sent
  | ended outcome =>
    have honto : ∀ g : MemoryHost, g = Footprint.onto {} g := by
      intro g
      simp [Footprint.onto]
    exact ⟨_, {}, congrArg _ (honto h), congrArg _ (honto k),
      Footprint.fits_of_appearing?_eq_none rfl _ _⟩

end Announcer

end NetReconcile
