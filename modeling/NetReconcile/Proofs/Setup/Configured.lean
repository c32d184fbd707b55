import NetReconcile.Proofs.Announce.Footprint
import NetReconcile.Proofs.Materialize.Presence
import NetReconcile.Proofs.Setup.Stages
import NetReconcile.Proofs.Text.Sorted

/-!
# The configured interfaces of a host

The configured interfaces are found by looking for the file of each physical interface. A look
leaves the host as it is, except that a path that is waited for appears one look earlier. So what a
look sees depends on earlier ones only if those were looks for the same path, and if that path is
waited for. Otherwise the interfaces can be listed in any order.

## Main definitions

* `MemoryHost.sees`: what a look for a path sees.
* `MemoryHost.SameView`: two hosts on which every look sees the same.
* `NetworkManager.LooksApart`: looks for the files of interfaces do not get in each other's way.

## Main statements

* `MemoryHost.sameView_isPresent_comm`: looks leave the same in either order.
* `NetworkManager.withFile_perm`: the interfaces that have a file, listed in any order.
-/

namespace NetReconcile

namespace MemoryHost

/-! ### Looks -/

/-- What a look for a path sees. -/
def sees (h : MemoryHost) (path : FilePath) : Bool :=
  match h.appearing.get? path with
  | some misses => misses = 0
  | none => h.files.contains path || h.links.contains path

variable {h k l : MemoryHost} {p q : FilePath}

/-- What a look answers is what it sees on the host before it. -/
theorem isPresent_fst (p : FilePath) (h : MemoryHost) :
    (FileStore.isPresent p h).1 = h.sees p := by
  rw [isPresent_eq, sees]
  match h.appearing.get? p with
  | none => rfl
  | some 0 => rfl
  | some (misses + 1) => rfl

/-- A look brings its own path one look nearer to its appearance. -/
theorem get?_appearing_isPresent (p q : FilePath) (h : MemoryHost) :
    (FileStore.isPresent p h).2.appearing.get? q =
      if p.same q then (h.appearing.get? q).map (· - 1) else h.appearing.get? q := by
  rw [isPresent_eq]
  by_cases hpq : p.same q = true
  · rw [if_pos hpq, ← h.appearing.get?_congr hpq]
    match hp : h.appearing.get? p with
    | none => simp [Footprint.onto, ← h.appearing.get?_congr hpq, hp]
    | some 0 => simp [Footprint.onto, ← h.appearing.get?_congr hpq, hp]
    | some (misses + 1) => simp [Footprint.onto, PathMap.get?_set, hpq]
  · rw [if_neg hpq]
    match h.appearing.get? p with
    | none => rfl
    | some 0 => rfl
    | some (misses + 1) => simp [Footprint.onto, PathMap.get?_set, hpq]

/-- Two hosts differ at most in their inventories and in the record of looks, and paths that are
waited for appear on both after as many looks. -/
structure SameView (h k : MemoryHost) : Prop where
  host_eq : k = { h with interfaces := k.interfaces, appearing := k.appearing, polls := k.polls }
  appearing_eq : ∀ path, k.appearing.get? path = h.appearing.get? path

namespace SameView

theorem refl (h : MemoryHost) : SameView h h :=
  ⟨rfl, fun _ ↦ rfl⟩

theorem trans (hk : SameView h k) (kl : SameView k l) : SameView h l :=
  ⟨by rw [kl.host_eq, hk.host_eq], fun path ↦ (kl.appearing_eq path).trans (hk.appearing_eq path)⟩

/-- Where every look sees the same, each of them does. -/
theorem sees_eq (hs : SameView h k) (path : FilePath) : k.sees path = h.sees path := by
  have hfiles : k.files = h.files := by rw [hs.host_eq]
  have hlinks : k.links = h.links := by rw [hs.host_eq]
  rw [sees, sees, hs.appearing_eq, hfiles, hlinks]

end SameView

/-- Looks are not seen, except for their place in the record and for what they wait for. -/
theorem isPresent_snd (p : FilePath) (h : MemoryHost) :
    (FileStore.isPresent p h).2 =
      { h with appearing := (FileStore.isPresent p h).2.appearing, polls := h.polls ++ [p] } := by
  rw [isPresent_eq]
  match h.appearing.get? p with
  | none => simp [Footprint.onto]
  | some 0 => simp [Footprint.onto]
  | some (misses + 1) => simp [Footprint.onto]

/-- A look leaves two such hosts as such. -/
theorem SameView.isPresent (hs : SameView h k) (p : FilePath) :
    SameView (FileStore.isPresent p h).2 (FileStore.isPresent p k).2 := by
  refine ⟨?_, fun path ↦ ?_⟩
  · rw [isPresent_snd p k, isPresent_snd p h]
    dsimp only
    rw [hs.host_eq]
  · rw [get?_appearing_isPresent, get?_appearing_isPresent, hs.appearing_eq]

/-- Looks leave the same in either order. -/
theorem sameView_isPresent_comm (p q : FilePath) (h : MemoryHost) :
    SameView (FileStore.isPresent q (FileStore.isPresent p h).2).2
      (FileStore.isPresent p (FileStore.isPresent q h).2).2 := by
  refine ⟨?_, fun path ↦ ?_⟩
  · rw [isPresent_snd p (FileStore.isPresent q h).2, isPresent_snd q (FileStore.isPresent p h).2]
    rw [isPresent_snd p h, isPresent_snd q h]
  · simp only [get?_appearing_isPresent]
    split
    · split <;> rfl
    · rfl

/-- A look at one path changes nothing for another one, and nothing for a path that is not waited
for. -/
theorem get?_appearing_isPresent_of_apart (hapart : p.same q = false ∨ h.Steady q) :
    (FileStore.isPresent p h).2.appearing.get? q = h.appearing.get? q := by
  rw [get?_appearing_isPresent]
  rcases hapart with hother | hsteady
  · rw [if_neg (by simp [hother])]
  · split
    · match hq : h.appearing.get? q with
      | none => rfl
      | some 0 => rfl
      | some (misses + 1) => exact absurd hq (hsteady misses)
    · rfl

/-- A look is not noticed by a later one, unless both are for one path that is waited for. -/
theorem sees_isPresent (hapart : p.same q = false ∨ h.Steady q) :
    (FileStore.isPresent p h).2.sees q = h.sees q := by
  have happears := get?_appearing_isPresent_of_apart hapart
  rw [isPresent_snd] at happears ⊢
  rw [sees, sees, happears]

/-- No look makes a path one that is waited for. -/
theorem Steady.isPresent (hq : h.Steady q) (p : FilePath) :
    (FileStore.isPresent p h).2.Steady q := by
  intro misses
  rw [get?_appearing_isPresent_of_apart (.inr hq)]
  exact hq misses

end MemoryHost

open MemoryHost

namespace NetworkManager

variable {m : NetworkManager} {interfaces interfaces' : List Interface} {h k : MemoryHost}

/-- Looks for the files of interfaces do not get in each other's way: two physical interfaces whose
names differ have different files, or it is not waited for their file. This is so on every host that
does not change by itself, and for all names without slashes. -/
def LooksApart (m : NetworkManager) (interfaces : List Interface) (h : MemoryHost) : Prop :=
  ∀ i ∈ interfaces, ∀ j ∈ interfaces, i.isPhysical = true → j.isPhysical = true →
    i.name ≠ j.name →
      (m.paths.ifcfg i.name).same (m.paths.ifcfg j.name) = false ∨
        h.Steady (m.paths.ifcfg j.name)

namespace LooksApart

/-- Nothing is waited for on a host that does not change by itself. -/
theorem of_appearing_eq_nil (m : NetworkManager) (interfaces : List Interface)
    (hnil : h.appearing = []) : m.LooksApart interfaces h := by
  intro i _ j _ _ _ _
  refine .inr fun misses ↦ ?_
  simp [hnil]

/-- Names without slashes are those of different files. -/
theorem of_slash_notMem (m : NetworkManager) (h : MemoryHost)
    (hslash : ∀ i ∈ interfaces, '/' ∉ i.name.toList) : m.LooksApart interfaces h := by
  intro i hi j hj _ _ hne
  refine .inl (Bool.eq_false_iff.2 fun hsame ↦ hne ?_)
  exact (ConfigPaths.same_ifcfg_iff (hslash i hi) (hslash j hj)).1 hsame

theorem tail {i : Interface} (ha : m.LooksApart (i :: interfaces) h) :
    m.LooksApart interfaces h :=
  fun j hj l hl ↦ ha j (List.mem_cons_of_mem _ hj) l (List.mem_cons_of_mem _ hl)

theorem perm (ha : m.LooksApart interfaces h) (hperm : interfaces.Perm interfaces') :
    m.LooksApart interfaces' h :=
  fun i hi j hj ↦ ha i (hperm.mem_iff.2 hi) j (hperm.mem_iff.2 hj)

theorem isPresent (ha : m.LooksApart interfaces h) (p : FilePath) :
    m.LooksApart interfaces (FileStore.isPresent p h).2 :=
  fun i hi j hj hi' hj' hne ↦ (ha i hi j hj hi' hj' hne).imp_right (·.isPresent p)

end LooksApart

/-! ### The interfaces that have a file -/

/-- A physical interface is listed if a look sees its file. -/
theorem withFile_cons_of_physical {i : Interface} (hi : i.isPhysical = true) :
    m.withFile (i :: interfaces) h =
      ((if h.sees (m.paths.ifcfg i.name) then [i.name] else []) ++
          (m.withFile interfaces (FileStore.isPresent (m.paths.ifcfg i.name) h).2).1,
        (m.withFile interfaces (FileStore.isPresent (m.paths.ifcfg i.name) h).2).2) := by
  rw [withFile, if_pos hi, ← isPresent_fst]
  dsimp only
  split <;> rfl

theorem withFile_cons_of_not_physical {i : Interface} (hi : i.isPhysical = false) :
    m.withFile (i :: interfaces) h = m.withFile interfaces h := by
  rw [withFile, if_neg (by simp [hi])]

/-- The same files are found on hosts on which every look sees the same. -/
theorem sameAnswer_withFile (m : NetworkManager) (interfaces : List Interface)
    (hs : SameView h k) :
    SameAnswer SameView (m.withFile interfaces h) (m.withFile interfaces k) := by
  induction interfaces generalizing h k with
  | nil => exact .intro [] hs
  | cons i is ih =>
    cases hi : i.isPhysical with
    | false =>
      rw [withFile_cons_of_not_physical hi, withFile_cons_of_not_physical hi]
      exact ih hs
    | true =>
      have hrest := ih (hs.isPresent (m.paths.ifcfg i.name))
      rw [withFile_cons_of_physical hi, withFile_cons_of_physical hi, hs.sees_eq, hrest.fst_eq]
      exact .intro _ hrest.snd

/-- Two interfaces can be looked at in either order. -/
theorem withFile_swap {i j : Interface} (ha : m.LooksApart (i :: j :: interfaces) h) :
    (m.withFile (i :: j :: interfaces) h).1.Perm (m.withFile (j :: i :: interfaces) h).1 ∧
      SameView (m.withFile (i :: j :: interfaces) h).2 (m.withFile (j :: i :: interfaces) h).2 := by
  have hmem : i ∈ i :: j :: interfaces := List.mem_cons_self
  have hmem' : j ∈ i :: j :: interfaces := List.mem_cons_of_mem _ List.mem_cons_self
  cases hi : i.isPhysical with
  | false =>
    cases hj : j.isPhysical with
    | false =>
      simp only [withFile_cons_of_not_physical hi, withFile_cons_of_not_physical hj]
      exact ⟨.refl _, .refl _⟩
    | true =>
      simp only [withFile_cons_of_not_physical hi, withFile_cons_of_physical hj]
      exact ⟨.refl _, .refl _⟩
  | true =>
    cases hj : j.isPhysical with
    | false =>
      simp only [withFile_cons_of_physical hi, withFile_cons_of_not_physical hj]
      exact ⟨.refl _, .refl _⟩
    | true =>
      simp only [withFile_cons_of_physical hi, withFile_cons_of_physical hj]
      by_cases hname : i.name = j.name
      · -- the same path is looked for twice
        rw [hname]
        exact ⟨.refl _, .refl _⟩
      · rw [sees_isPresent (ha i hmem j hmem' hi hj hname),
          sees_isPresent (ha j hmem' i hmem hj hi (Ne.symm hname))]
        have hrest := m.sameAnswer_withFile interfaces
          (sameView_isPresent_comm (m.paths.ifcfg i.name) (m.paths.ifcfg j.name) h)
        rw [hrest.fst_eq]
        exact ⟨List.perm_append_comm_assoc _ _ _, hrest.snd⟩

/-- The interfaces that have a file are the same, in whatever order interfaces are listed. -/
theorem withFile_perm (hperm : interfaces.Perm interfaces') (ha : m.LooksApart interfaces h) :
    (m.withFile interfaces h).1.Perm (m.withFile interfaces' h).1 ∧
      SameView (m.withFile interfaces h).2 (m.withFile interfaces' h).2 := by
  induction hperm generalizing h with
  | nil => exact ⟨.refl _, .refl h⟩
  | @cons i is is' _ ih =>
    cases hi : i.isPhysical with
    | false =>
      rw [withFile_cons_of_not_physical hi, withFile_cons_of_not_physical hi]
      exact ih ha.tail
    | true =>
      obtain ⟨hnames, hview⟩ := ih (ha.tail.isPresent (m.paths.ifcfg i.name))
      rw [withFile_cons_of_physical hi, withFile_cons_of_physical hi]
      exact ⟨hnames.append_left _, hview⟩
  | swap i j is => exact withFile_swap ha
  | @trans is js ls hij _ ih ih' =>
    obtain ⟨hnames, hview⟩ := ih ha
    obtain ⟨hnames', hview'⟩ := ih' (ha.perm hij)
    exact ⟨hnames.trans hnames', hview.trans hview'⟩

/-- The configured interfaces are those whose file is seen, sorted by their names. -/
theorem configured_eq (m : NetworkManager) (h : MemoryHost) :
    m.configured h = match h.faults.inventory with
      | some message => .error (.discovery (.reported message)) h
      | none => .ok (m.withFile h.interfaces h).1.mergeSort (m.withFile h.interfaces h).2 := by
  have hi := interfaces_eq h
  cases hf : h.faults.inventory with
  | some message =>
    rw [hf] at hi
    exact bind_of_error (stage_of_error hi)
  | none =>
    rw [hf] at hi
    exact bind_of_ok (stage_of_ok hi)

/-- The configured interfaces are the same, in whatever order an inventory lists interfaces, and the
hosts that are left look the same. -/
theorem alike_configured_perm (m : NetworkManager) (hperm : interfaces.Perm interfaces')
    (ha : m.LooksApart interfaces h) :
    Alike SameView (m.configured { h with interfaces := interfaces })
      (m.configured { h with interfaces := interfaces' }) := by
  have hview : SameView { h with interfaces := interfaces } { h with interfaces := interfaces' } :=
    ⟨rfl, fun _ ↦ rfl⟩
  rw [configured_eq, configured_eq]
  cases h.faults.inventory with
  | some message => exact .error _ hview
  | none =>
    have ha' : m.LooksApart interfaces { h with interfaces := interfaces } := ha
    obtain ⟨hnames, hleft⟩ := withFile_perm hperm ha'
    have hsame := m.sameAnswer_withFile interfaces' hview
    dsimp only
    rw [mergeSort_names_perm hnames, ← hsame.fst_eq]
    exact .ok _ (hleft.trans hsame.snd)

end NetworkManager

end NetReconcile
