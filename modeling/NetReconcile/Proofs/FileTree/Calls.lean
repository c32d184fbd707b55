import NetReconcile.Proofs.FileTree.Walk
import NetReconcile.FileTree.Store
import NetReconcile.Proofs.HostM

/-!
# What calls on a file tree change

A call that succeeds changes the tree at one location or at two, and what was there before can be
told from the success. Making directories only adds to a tree. Making a file anew and filling it
puts it where there was a file or nothing, if the path is no link. Renaming takes an entry to where
there was no directory.

## Main definitions

* `FileTree.Grown`: a tree to which directories were added.
* `FileTree.Filled`: a tree in which a file has taken the place of a file or of nothing.

## Main statements

* `FileTree.grown_makeAll`: making directories only adds directories to which their paths lead.
* `FileTree.exists_filled_of_createFile`: what making and filling a file comes to.
* `FileTree.rename_eq_ok`: what renaming comes to.

## One equation per call

Each call is first written out as what it does to a tree, with one case for every way in which its
walk can end (`createFile_eq`, `rename_eq` and so on). Later modules never open a call again: they
use the equation, or what a success says of the tree before and after it.

That ways stay open rests on `FileTree.HasWays` alone. Adding a directory, or putting a file where
there was a file or nothing, keeps all directories and all links, so a path that was walked before
such a call comes to the same directory after it.
-/

namespace NetReconcile.FileTree

variable {t t' t'' : FileTree} {p q : FilePath}

/-! ### Single calls -/

/-- A question that has an answer leaves the tree as it is. -/
theorem ask_of_ok {α : Type} {question : FileTree → Except HostError α} {a : α}
    (h : question t = .ok a) : ask question t = .ok a t := by
  rw [ask, h]

theorem ask_of_error {α : Type} {question : FileTree → Except HostError α} {e : HostError}
    (h : question t = .error e) : ask question t = .error e t := by
  rw [ask, h]

theorem nodeAt_eq (dir : Location) (name : String) (t : FileTree) :
    nodeAt dir name t = .ok (t.get? (name :: dir)) t :=
  rfl

theorem get_eq (t : FileTree) : (get : Change FileTree) t = .ok t t :=
  rfl

/-- Making a directory adds one entry, in the directory that the walk came to, if the name is free
there. -/
theorem makeDirectory_eq (p : FilePath) (mode : Nat) (t : FileTree) :
    makeDirectory p mode t = match t.slot p with
      | .error e => .error e t
      | .ok .special => .error (.system .entryExists) t
      | .ok (.entry dir name _) =>
        if (t.get? (name :: dir)).isSome then .error (.system .entryExists) t
        else .ok () (t.set (name :: dir) (.directory (mode % 0o10000))) := by
  unfold makeDirectory
  cases hslot : t.slot p with
  | error e => exact bind_of_error (ask_of_error hslot)
  | ok slot =>
    refine (bind_of_ok (ask_of_ok hslot)).trans ?_
    cases slot with
    | special => rfl
    | entry dir name slash =>
      refine (bind_of_ok (nodeAt_eq dir name t)).trans ?_
      dsimp only
      split
      · rfl
      · rfl

/-- Making a file opens the one that the path leads to and empties it, or adds an empty one under
the last name of the path. Links are followed, so the file can stand elsewhere than at the path. -/
theorem createFile_eq (p : FilePath) (t : FileTree) :
    createFile p t = match t.locate .file p with
      | .error e => .error e t
      | .ok (.absent dir name) => .ok (name :: dir) (t.set (name :: dir) (.file [] false))
      | .ok (.existing loc) =>
        match t.get? loc with
        | some (.file _ isExecutable) => .ok loc (t.set loc (.file [] isExecutable))
        | _ => .error (.system .isDirectory) t := by
  unfold createFile
  cases hplace : t.locate .file p with
  | error e => exact bind_of_error (ask_of_error hplace)
  | ok place =>
    refine (bind_of_ok (ask_of_ok hplace)).trans ?_
    cases place with
    | absent dir name => rfl
    | existing loc =>
      refine (bind_of_ok (get_eq t)).trans ?_
      dsimp only
      cases t.get? loc with
      | none => rfl
      | some node =>
        cases node with
        | directory | file | link => rfl

/-- Filling changes the bytes of a file that is there, and never fails. -/
theorem fill_eq (loc : Location) (bytes : List UInt8) (t : FileTree) :
    fill loc bytes t = .ok () (match t.get? loc with
      | some (.file _ isExecutable) => t.set loc (.file bytes isExecutable)
      | _ => t) := by
  unfold fill
  refine (bind_of_ok (get_eq t)).trans ?_
  cases t.get? loc with
  | none => rfl
  | some node =>
    cases node with
    | directory | file | link => rfl

/-- Renaming follows no link at the end of either path: both names are entries of the directories
that the walks came to. Only a directory is not replaced. -/
theorem rename_eq (source target : FilePath) (t : FileTree) :
    rename source target t = match t.slot source, t.slot target with
      | .error e, _ => .error e t
      | .ok _, .error e => .error e t
      | .ok (.entry dir name _), .ok (.entry dir' name' slash) =>
        match t.get? (name :: dir) with
        | none => .error (.system .noEntry) t
        | some node =>
          if slash then .error (.system .notDirectory) t
          else
            match t.get? (name' :: dir') with
            | some (.directory _) => .error (.system .isDirectory) t
            | _ => .ok () ((t.erase (name :: dir)).set (name' :: dir') node)
      | .ok _, .ok _ => .error (.system .busy) t := by
  unfold rename
  -- both walks come first; then the entry of the source is looked at, and last that of the target
  cases hsource : t.slot source with
  | error e => exact bind_of_error (ask_of_error hsource)
  | ok slot =>
    refine (bind_of_ok (ask_of_ok hsource)).trans ?_
    cases htarget : t.slot target with
    | error e =>
      refine (bind_of_error (ask_of_error htarget)).trans ?_
      cases slot with
      | special | entry => rfl
    | ok slot' =>
      refine (bind_of_ok (ask_of_ok htarget)).trans ?_
      cases slot with
      | special =>
        cases slot' with
        | special | entry => rfl
      | entry dir name slash =>
        cases slot' with
        | special => rfl
        | entry dir' name' slash' =>
          refine (bind_of_ok (nodeAt_eq dir name t)).trans ?_
          dsimp only
          cases t.get? (name :: dir) with
          | none => rfl
          | some node =>
            cases slash' with
            | true => rfl
            | false =>
              refine (bind_of_ok (nodeAt_eq dir' name' t)).trans ?_
              cases t.get? (name' :: dir') with
              | none => rfl
              | some node' =>
                cases node' with
                | directory | file | link => rfl

/-! ### Making directories -/

/-- A tree to which directories were added, to each of which one of some paths leads. -/
structure Grown (qs : List FilePath) (t t' : FileTree) : Prop where
  workDir_eq : t'.workDir = t.workDir
  get?_eq : ∀ loc node, t.get? loc = some node → t'.get? loc = some node
  exists_of_new : ∀ loc node, t'.get? loc = some node → t.get? loc = none →
    (∃ mode, node = .directory mode) ∧ ∃ q ∈ qs, ∃ m, t'.way q (parts q.text) = .ok (loc, m)

namespace Grown

variable {qs qs' : List FilePath}

theorem refl (qs : List FilePath) (t : FileTree) : Grown qs t t :=
  ⟨rfl, fun _ _ h ↦ h, fun loc node h hnone ↦ by rw [hnone] at h; cases h⟩

theorem hasWays (hg : Grown qs t t') : HasWays t t' :=
  fun loc node h _ ↦ hg.get?_eq loc node h

theorem mono (hsub : ∀ q ∈ qs, q ∈ qs') (hg : Grown qs t t') : Grown qs' t t' := by
  refine ⟨hg.workDir_eq, hg.get?_eq, fun loc node h hnone ↦ ?_⟩
  obtain ⟨hnode, q, hq, hway⟩ := hg.exists_of_new loc node h hnone
  exact ⟨hnode, q, hsub q hq, hway⟩

/-- Directories added one after the other were added for the paths of both. -/
theorem trans (hg : Grown qs t t') (hg' : Grown qs t' t'') : Grown qs t t'' := by
  refine ⟨hg'.workDir_eq.trans hg.workDir_eq,
    fun loc node h ↦ hg'.get?_eq loc node (hg.get?_eq loc node h), fun loc node h hnone ↦ ?_⟩
  cases hmid : t'.get? loc with
  | none => exact hg'.exists_of_new loc node h hmid
  | some node' =>
    obtain rfl : node' = node := by
      rw [hg'.get?_eq loc node' hmid] at h
      exact Option.some.inj h
    obtain ⟨hnode, q, hq, m, hway⟩ := hg.exists_of_new loc node' hmid hnone
    exact ⟨hnode, q, hq, m, way_of_hasWays hg'.hasWays hg'.workDir_eq hway⟩

end Grown

/-- A directory that was made is where its path leads. -/
theorem grown_set_directory {dir : Location} {name : String} {slash : Bool} (mode : Nat)
    (hslot : t.slot q = .ok (.entry dir name slash)) (hnone : t.get? (name :: dir) = none) :
    Grown [q] t (t.set (name :: dir) (.directory mode)) := by
  have hne : name :: dir ≠ [] := List.cons_ne_nil name dir
  have hkeep : ∀ loc node, t.get? loc = some node →
      (t.set (name :: dir) (.directory mode)).get? loc = some node := by
    intro loc node h
    rw [get?_set_of_ne, h]
    rintro rfl
    rw [hnone] at h
    cases h
  refine ⟨rfl, hkeep, fun loc node h hfree ↦ ?_⟩
  by_cases hloc : loc = name :: dir
  · subst hloc
    rw [get?_set_self t _ hne] at h
    refine ⟨⟨mode, (Option.some.inj h).symm⟩, q, List.mem_singleton_self q, ?_⟩
    obtain ⟨hname, before, k, m, hcheck, -, hway⟩ := exists_way_of_slot hslot
    have hway' : (t.set (name :: dir) (.directory mode)).way q before = .ok (dir, m) :=
      way_of_hasWays (fun loc node h _ ↦ hkeep loc node h) rfl hway
    refine ⟨m, ?_⟩
    rw [← eq_parts_of_checkPath hcheck, way_append, hway']
    show follow _ m dir (name :: List.replicate k "") = _
    rw [follow_of_isEntryName hname, get?_set_self t _ hne]
    exact follow_slashes _ m (name :: dir) k
  · rw [get?_set_of_ne t _ hloc, hfree] at h
    cases h

/-- An error of `mkdir` that says that something is there already is no error, but the tree is what
that call left. -/
theorem after_makeMissing (mode : Nat) (q : FilePath) (t : FileTree) :
    after (makeMissing mode q) t = after (makeDirectory q mode) t := by
  unfold after makeMissing
  cases makeDirectory q mode t with
  | ok _ t' => rfl
  | error e t' =>
    -- an entry that exists is no error, but the tree is the same
    cases e with
    | system errno =>
      cases errno with
      | _ => rfl
    | _ => rfl

/-- Making a directory where it is missing adds it or nothing, whether or not that succeeds. -/
theorem grown_makeMissing (mode : Nat) (q : FilePath) (t : FileTree) :
    Grown [q] t (after (makeMissing mode q) t) := by
  rw [after_makeMissing, after, makeDirectory_eq]
  cases hslot : t.slot q with
  | error e => exact .refl [q] t
  | ok slot =>
    cases slot with
    | special => exact .refl [q] t
    | entry dir name slash =>
      dsimp only
      cases hget : t.get? (name :: dir) with
      | some node => exact .refl [q] t
      | none => exact grown_set_directory _ hslot hget

/-- Making directories only adds to a tree, also when one of them cannot be made: each of those
before it was added or was there. -/
theorem grown_makeAll (mode : Nat) (qs : List FilePath) (t : FileTree) :
    Grown qs t (after (makeAll mode qs) t) := by
  induction qs generalizing t with
  | nil => exact .refl [] t
  | cons q qs ih =>
    have hfirst : Grown (q :: qs) t (after (makeMissing mode q) t) :=
      (grown_makeMissing mode q t).mono (by simp)
    cases hmake : makeMissing mode q t with
    | ok u t' =>
      have hall : makeAll mode (q :: qs) t = makeAll mode qs t' := bind_of_ok hmake
      rw [after, hmake] at hfirst
      rw [after, hall]
      exact hfirst.trans ((ih t').mono fun q' hq' ↦ List.mem_cons_of_mem q hq')
    | error e t' =>
      have hall : makeAll mode (q :: qs) t = .error e t' := bind_of_error hmake
      rw [after, hmake] at hfirst
      rw [after, hall]
      exact hfirst

/-! ### Making and filling a file -/

/-- A tree in which a file with some contents has taken the place of a file or of nothing. -/
structure Filled (t t' : FileTree) (loc : Location) (bytes : List UInt8) : Prop where
  workDir_eq : t'.workDir = t.workDir
  ne_root : loc ≠ []
  /-- What was there is neither a directory nor a link. -/
  isOnWays_eq : ∀ node, t.get? loc = some node → node.isOnWays = false
  get?_self : ∃ isExecutable, t'.get? loc = some (.file bytes isExecutable)
  get?_of_ne : ∀ l, l ≠ loc → t'.get? l = t.get? l

namespace Filled

variable {loc : Location} {bytes : List UInt8}

/-- The ways of the tree stay. -/
theorem hasWays (hf : Filled t t' loc bytes) : HasWays t t' := by
  intro l node h hnode
  rw [hf.get?_of_ne, h]
  rintro rfl
  rw [hf.isOnWays_eq node h] at hnode
  cases hnode

/-- The tree has no new ways. -/
theorem hasWays_symm (hf : Filled t t' loc bytes) : HasWays t' t := by
  intro l node h hnode
  rw [← hf.get?_of_ne, h]
  rintro rfl
  obtain ⟨isExecutable, hself⟩ := hf.get?_self
  rw [hself] at h
  cases h
  cases hnode

/-- Moving the file to another location changes these two locations only. -/
theorem get?_moved {l loc' : Location} (hf : Filled t t' loc bytes) (node : Node) (hl : l ≠ loc')
    (hl' : l ≠ loc) : ((t'.erase loc).set loc' node).get? l = t.get? l := by
  rw [get?_set_of_ne _ _ hl, get?_erase_of_ne _ hl', hf.get?_of_ne l hl']

/-- Ways on which the other location is not stay when the file is moved there. -/
theorem hasWays_moved {loc' : Location} (hf : Filled t t' loc bytes) (hne : loc' ≠ [])
    (node : Node) : HasWays (t.erase loc') ((t'.erase loc).set loc' node) := by
  intro l kept h hkept
  have hl : l ≠ loc' := by
    rintro rfl
    rw [get?_erase_self t hne] at h
    cases h
  rw [get?_erase_of_ne t hl] at h
  have hl' : l ≠ loc := by
    rintro rfl
    rw [hf.isOnWays_eq kept h] at hkept
    cases hkept
  rw [hf.get?_moved node hl hl', h]

end Filled

/-- A path that is no link leads to no link. -/
theorem get?_ne_link {before : List String} {name : String} {r : Location × Nat}
    (hlink : t.readLink? p = none) (hcheck : checkPath p = .ok (before ++ [name]))
    (hname : IsEntryName name) (hway : t.way p before = .ok r) (target : String) :
    t.get? (name :: r.1) ≠ some (.link target) := by
  intro hget
  have hlocate : t.locate .entry p = .ok (.existing (name :: r.1)) := by
    rw [locate_eq hcheck hname.isIdle_eq, hway]
    show ofWalk (t.walk .entry r.2 r.1 [name]) = _
    rw [walk_singleton hname, hget]
    rfl
  rw [readLink?, hlocate] at hlink
  simp [Except.toOption, hget] at hlink

/-- Making and filling a file where there is a file or nothing. -/
theorem filled_set_set {loc : Location} (hne : loc ≠ [])
    (hways : ∀ node, t.get? loc = some node → node.isOnWays = false) (isExecutable : Bool)
    (bytes : List UInt8) :
    ∃ t'', fill loc bytes (t.set loc (.file [] isExecutable)) = .ok () t'' ∧
      Filled t t'' loc bytes := by
  have hmade := get?_set_self t (.file [] isExecutable) hne
  refine ⟨(t.set loc (.file [] isExecutable)).set loc (.file bytes isExecutable), ?_, rfl, hne,
    hways, ⟨isExecutable, get?_set_self _ _ hne⟩, fun l hl ↦ ?_⟩
  · rw [fill_eq, hmade]
  · rw [get?_set_of_ne _ _ hl, get?_set_of_ne _ _ hl]

/-- A file that was made and filled is named by the last part of its path, if that is no link. -/
theorem exists_filled_of_createFile {before : List String} {name : String} {loc : Location}
    (hparts : parts p.text = before ++ [name]) (hidle : isIdle name = false) (hup : name ≠ "..")
    (hlink : t.readLink? p = none) (hcreate : createFile p t = .ok loc t') (bytes : List UInt8) :
    checkPath p = .ok (before ++ [name]) ∧ IsEntryName name ∧ ∃ r t'', loc = name :: r.1 ∧
      t.way p before = .ok r ∧ fill loc bytes t' = .ok () t'' ∧ Filled t t'' loc bytes := by
  rw [createFile_eq] at hcreate
  cases hplace : t.locate .file p with
  | error e =>
    rw [hplace] at hcreate
    cases hcreate
  | ok place =>
    obtain ⟨hcheck, r, hway, hwalk⟩ := exists_way_of_locate hparts hidle hplace
    have hname := isEntryName_of_walk hidle hup hwalk
    have hne : name :: r.1 ≠ [] := List.cons_ne_nil name r.1
    rw [walk_singleton hname] at hwalk
    rw [hplace] at hcreate
    refine ⟨hcheck, hname, r, ?_⟩
    cases hget : t.get? (name :: r.1) with
    | none =>
      rw [hget] at hwalk
      cases hwalk
      cases hcreate
      obtain ⟨t'', hfill, hfilled⟩ :=
        filled_set_set hne (fun node h ↦ by rw [hget] at h; cases h) false bytes
      exact ⟨t'', rfl, hway, hfill, hfilled⟩
    | some node =>
      rw [hget] at hwalk
      cases node with
      | directory mode =>
        cases hwalk
        simp [hget] at hcreate
      | file old isExecutable =>
        cases hwalk
        dsimp only at hcreate
        rw [hget] at hcreate
        cases hcreate
        obtain ⟨t'', hfill, hfilled⟩ :=
          filled_set_set hne (fun node h ↦ by rw [hget] at h; cases h; rfl) isExecutable bytes
        exact ⟨t'', rfl, hway, hfill, hfilled⟩
      | link target => exact absurd hget (get?_ne_link hlink hcheck hname hway target)

/-- A file that cannot be made leaves no trace. -/
theorem createFile_eq_error {e : HostError} (h : createFile p t = .error e t') : t' = t := by
  rw [createFile_eq] at h
  split at h
  · cases h
    rfl
  · cases h
  · split at h
    · cases h
    · cases h
      rfl

/-! ### Renaming -/

/-- A renaming that succeeds has found an entry at the first path, and no directory at the second.
The entry is at the second path afterwards, and nowhere else. -/
theorem rename_eq_ok (h : rename p q t = .ok () t') :
    ∃ dir name slash dir' name' node, t.slot p = .ok (.entry dir name slash) ∧
      t.slot q = .ok (.entry dir' name' false) ∧ t.get? (name :: dir) = some node ∧
      (∀ mode, t.get? (name' :: dir') ≠ some (.directory mode)) ∧
      t' = (t.erase (name :: dir)).set (name' :: dir') node := by
  rw [rename_eq] at h
  split at h
  · cases h
  · cases h
  · rename_i dir name slash dir' name' slash' hsource htarget
    split at h
    · cases h
    · rename_i node hget
      cases slash' with
      | true => cases h
      | false =>
        rw [if_neg Bool.false_ne_true] at h
        split at h
        · cases h
        · rename_i hdirectory
          cases h
          exact ⟨dir, name, slash, dir', name', node, hsource, htarget, hget, hdirectory, rfl⟩
  · cases h

/-- A renaming that fails leaves both entries as they are. -/
theorem rename_eq_error {e : HostError} (h : rename p q t = .error e t') : t' = t := by
  rw [rename_eq] at h
  split at h
  · cases h
    rfl
  · cases h
    rfl
  · split at h
    · cases h
      rfl
    · split at h
      · cases h
        rfl
      · split at h
        · cases h
          rfl
        · cases h
  · cases h
    rfl

end NetReconcile.FileTree
