import NetReconcile.Proofs.FileTree.Calls
import NetReconcile.Proofs.FileTree.Paths
import NetReconcile.Proofs.Text.Bytes

/-!
# Replacing a file

A file is made beside the one that it is to replace, filled, and renamed. Every call walks a path
anew, and the tree has changed since the last one. But what was changed is a file, and the entry
that the renaming replaces, and neither is on the way to the directory of the file, unless that way
leads through a link that is the entry itself. So all calls come to the same directory, and what is
read in the end is what was written.

## Main definitions

* `FileTree.IsDirect`: the way to the directory of a file does not lead through a link at its entry.
* `FileTree.ReplaceEnds`: how replacing a file can end, step by step.
* `FileTree.WroteBeside`: what was written before the renaming, where the other name is no link.
* `FileTree.Replaces`: how replacing a file can end there.
* `FileTree.Replaced`: what replacing a file comes to.

## Main statements

* `FileTree.replaceEnds_replaceFile`, `FileTree.replaces_replaceFile`: replacing a file ends in one
  of these ways.
* `FileTree.exists_replaced_of_rename`: the renaming replaces the file that the path names.
-/

namespace NetReconcile.FileTree

variable {t t₂ t₃ : FileTree} {p tmp : FilePath} {bytes : List UInt8}

/-- If a link is the entry that a path names, the way to its directory does not lead through that
link. -/
def IsDirect (t : FileTree) (p : FilePath) : Prop :=
  ∀ dir name target, t.slot p = .ok (.entry dir name false) →
    t.get? (name :: dir) = some (.link target) →
    (t.erase (name :: dir)).slot p = .ok (.entry dir name false)

/-! ### Writing beside a file -/

/-- The bytes were written under the other name of a file, to a location that this name leads to. -/
structure MadeBeside (t t₂ : FileTree) (p tmp : FilePath) (bytes : List UInt8) (loc : Location) :
    Prop where
  temporary_eq : temporary p = some tmp
  exists_createFile_eq : ∃ t₁, createFile tmp t = .ok loc t₁ ∧ fill loc bytes t₁ = .ok () t₂

/-- How replacing a file can end. The error says which step has failed. -/
inductive ReplaceEnds (t : FileTree) (p : FilePath) (bytes : List UInt8)
    (failure : Option HostError) : EStateM.Result HostError FileTree Unit → Prop
  /-- The path has no directory or no name. -/
  | unnamed : ReplaceEnds t p bytes failure (.error (.invalidPath p) t)
  /-- The file beside it cannot be made. -/
  | unmade (tmp : FilePath) (e : HostError) :
    ReplaceEnds t p bytes failure (.error (.during (.createFile tmp) e) t)
  /-- The file beside it is made, and writing it fails. -/
  | unwritten {tmp : FilePath} {loc : Location} {t₂ : FileTree} {e : HostError}
      (hmade : MadeBeside t t₂ p tmp bytes loc) (hfailure : failure = some e) :
    ReplaceEnds t p bytes failure (.error (.during (.writeFile p) e) t₂)
  /-- The file beside it is written, and cannot be renamed. -/
  | unmoved {tmp : FilePath} {loc : Location} {t₂ : FileTree} (e : HostError)
      (hmade : MadeBeside t t₂ p tmp bytes loc) :
    ReplaceEnds t p bytes failure (.error (.during (.renameFile tmp p) e) t₂)
  /-- The file is replaced, and its directory cannot be opened. -/
  | unopened {tmp dir : FilePath} {loc : Location} {t₂ t₃ : FileTree} (e : HostError)
      (hmade : MadeBeside t t₂ p tmp bytes loc) (hrename : rename tmp p t₂ = .ok () t₃)
      (hdir : holder? p = some dir) (hopen : t₃.openPath dir = .error e) :
    ReplaceEnds t p bytes failure (.error (.during (.openDirectory dir) e) t₃)
  /-- The file is replaced. -/
  | replaced {tmp : FilePath} {loc : Location} {t₂ t₃ : FileTree}
      (hmade : MadeBeside t t₂ p tmp bytes loc) (hrename : rename tmp p t₂ = .ok () t₃) :
    ReplaceEnds t p bytes failure (.ok () t₃)

/-- Replacing a file ends in one of these ways. -/
theorem replaceEnds_replaceFile (t : FileTree) (p : FilePath) (bytes : List UInt8)
    (failure : Option HostError) :
    ReplaceEnds t p bytes failure (replaceFile p bytes failure t) := by
  unfold replaceFile
  cases hdir : holder? p with
  | none => exact .unnamed
  | some dir =>
    cases htmp : temporary p with
    | none => exact .unnamed
    | some tmp =>
      dsimp only
      cases hcreate : createFile tmp t with
      | error e t₁ =>
        rw [bind_of_error (within_of_error hcreate), createFile_eq_error hcreate]
        exact .unmade tmp e
      | ok loc t₁ =>
        obtain ⟨t₂, hfill⟩ : ∃ t₂, fill loc bytes t₁ = .ok () t₂ := ⟨_, fill_eq loc bytes t₁⟩
        have hmade : MadeBeside t t₂ p tmp bytes loc := ⟨htmp, t₁, hcreate, hfill⟩
        rw [bind_of_ok (within_of_ok hcreate), bind_of_ok hfill]
        cases hfailure : failure with
        | some e => exact .unwritten hmade rfl
        | none =>
          dsimp only
          cases hrename : rename tmp p t₂ with
          | error e t₃ =>
            rw [bind_of_error (within_of_error hrename), rename_eq_error hrename]
            exact .unmoved e hmade
          | ok u t₃ =>
            rw [bind_of_ok (within_of_ok hrename)]
            cases hopen : t₃.openPath dir with
            | error e =>
              have hask : ask (·.openPath dir) t₃ = .error e t₃ := ask_of_error hopen
              rw [discard_of_error (within_of_error hask)]
              exact .unopened e hmade hrename hdir hopen
            | ok loc =>
              have hask : ask (·.openPath dir) t₃ = .ok loc t₃ := ask_of_ok hopen
              rw [discard_of_ok (within_of_ok hask)]
              exact .replaced hmade hrename

/-- The bytes were written to a file that the last part of another path names, in the place of a
file or of nothing. -/
structure WroteBeside (t t₂ : FileTree) (tmp : FilePath) (bytes : List UInt8) (before : List String)
    (name : String) (r : Location × Nat) : Prop where
  check_eq : checkPath tmp = .ok (before ++ [name])
  isEntryName : IsEntryName name
  way_eq : t.way tmp before = .ok r
  filled : Filled t t₂ (name :: r.1) bytes

/-- Where the other name is no link, the bytes are written to what its last part names. -/
theorem MadeBeside.exists_wroteBeside {loc : Location} (hmade : MadeBeside t t₂ p tmp bytes loc)
    (hlink : t.readLink? tmp = none) :
    ∃ before name r, WroteBeside t t₂ tmp bytes before name r := by
  obtain ⟨t₁, hcreate, hfill⟩ := hmade.exists_createFile_eq
  obtain ⟨before, name, hparts⟩ := exists_parts_of_temporary hmade.temporary_eq
  obtain ⟨hidle, hup, -⟩ := temporary_ne name
  obtain ⟨hcheck, hname, r, t₂', rfl, hway, hfill', hfilled⟩ :=
    exists_filled_of_createFile hparts hidle hup hlink hcreate bytes
  obtain rfl : t₂' = t₂ := by
    rw [hfill] at hfill'
    cases hfill'
    rfl
  exact ⟨before, _, r, hcheck, hname, hway, hfilled⟩

/-- How replacing a file whose other name is no link can end. -/
inductive Replaces (t : FileTree) (p : FilePath) (bytes : List UInt8) :
    EStateM.Result HostError FileTree Unit → Prop
  /-- Nothing is changed. -/
  | refused (e : HostError) : Replaces t p bytes (.error e t)
  /-- The file beside it is written, and left there. -/
  | left (e : HostError) {tmp : FilePath} {t₂ : FileTree} {before : List String} {name : String}
      {r : Location × Nat} (htmp : temporary p = some tmp)
      (hwrote : WroteBeside t t₂ tmp bytes before name r) : Replaces t p bytes (.error e t₂)
  /-- The file is replaced, and its directory cannot be opened. -/
  | unopened (e e' : HostError) {tmp dir : FilePath} {t₂ t₃ : FileTree} {before : List String}
      {name : String} {r : Location × Nat} (htmp : temporary p = some tmp)
      (hwrote : WroteBeside t t₂ tmp bytes before name r) (hrename : rename tmp p t₂ = .ok () t₃)
      (hdir : holder? p = some dir) (hopen : t₃.openPath dir = .error e') :
    Replaces t p bytes (.error e t₃)
  /-- The file is replaced. -/
  | replaced {tmp : FilePath} {t₂ t₃ : FileTree} {before : List String} {name : String}
      {r : Location × Nat} (htmp : temporary p = some tmp)
      (hwrote : WroteBeside t t₂ tmp bytes before name r) (hrename : rename tmp p t₂ = .ok () t₃) :
    Replaces t p bytes (.ok () t₃)

/-- Replacing a file ends in one of these ways, unless its other name is a link. -/
theorem replaces_replaceFile (bytes : List UInt8)
    (hlink : ∀ tmp, temporary p = some tmp → t.readLink? tmp = none) :
    Replaces t p bytes (replaceFile p bytes none t) := by
  have hends := replaceEnds_replaceFile t p bytes none
  generalize replaceFile p bytes none t = result at hends
  cases hends with
  | unnamed | unmade => exact .refused _
  | unwritten _ hfailure => cases hfailure
  | unmoved e hmade =>
    obtain ⟨_, _, _, hwrote⟩ := hmade.exists_wroteBeside (hlink _ hmade.temporary_eq)
    exact .left _ hmade.temporary_eq hwrote
  | unopened e hmade hrename hdir hopen =>
    obtain ⟨_, _, _, hwrote⟩ := hmade.exists_wroteBeside (hlink _ hmade.temporary_eq)
    exact .unopened _ e hmade.temporary_eq hwrote hrename hdir hopen
  | replaced hmade hrename =>
    obtain ⟨_, _, _, hwrote⟩ := hmade.exists_wroteBeside (hlink _ hmade.temporary_eq)
    exact .replaced hmade.temporary_eq hwrote hrename

/-! ### What replacing a file comes to -/

/-- A file was replaced: what is at the entry of the path are the bytes, and the way to it is the
same, also on the tree without the old entry. -/
structure Replaced (t t₃ : FileTree) (p : FilePath) (bytes : List UInt8) (before : List String)
    (name : String) (dir : Location) (m : Nat) : Prop where
  check_eq : checkPath p = .ok (before ++ [name])
  isEntryName : IsEntryName name
  workDir_eq : t₃.workDir = t.workDir
  way_eq : t.way p before = .ok (dir, m)
  way_erase_eq : (t.erase (name :: dir)).way p before = .ok (dir, m)
  hasWays : HasWays (t.erase (name :: dir)) t₃
  get?_self : ∃ isExecutable, t₃.get? (name :: dir) = some (.file bytes isExecutable)
  get?_temporary : t₃.get? (("." ++ name ++ ".tmp") :: dir) = none
  get?_of_ne : ∀ l, l ≠ name :: dir → l ≠ ("." ++ name ++ ".tmp") :: dir → t₃.get? l = t.get? l

/-- A tree has all ways of the same tree without an entry. -/
theorem hasWays_erase (t : FileTree) (loc : Location) (hloc : loc ≠ []) :
    HasWays (t.erase loc) t := by
  intro l node h _
  by_cases hl : l = loc
  · rw [hl, get?_erase_self t hloc] at h
    cases h
  · rwa [get?_erase_of_ne t hl] at h

/-- The way to the directory of a file stays when the entry of the file is taken away, unless that
is a directory. -/
theorem way_erase_of_isDirect {before : List String} {name : String} {dir : Location} {m : Nat}
    (hdirect : IsDirect t p) (hcheck : checkPath p = .ok (before ++ [name]))
    (hname : IsEntryName name) (hway : t.way p before = .ok (dir, m))
    (hget : ∀ mode, t.get? (name :: dir) ≠ some (.directory mode)) :
    (t.erase (name :: dir)).way p before = .ok (dir, m) := by
  have hne : name :: dir ≠ [] := List.cons_ne_nil name dir
  by_cases hlink : ∃ target, t.get? (name :: dir) = some (.link target)
  · obtain ⟨target, hlink⟩ := hlink
    have hslot := hdirect dir name target (slot_of_way hcheck hname hway) hlink
    obtain ⟨before', m', hcheck', hway'⟩ := exists_way_of_slot_false hslot
    rw [hcheck] at hcheck'
    obtain rfl := (List.append_inj' (Except.ok.inj hcheck') rfl).1
    have hback : t.way p before = .ok (dir, m') :=
      way_of_hasWays (hasWays_erase t _ hne) rfl hway'
    rw [hback] at hway
    rw [hway', hway]
  · -- neither a file nor nothing is on a way
    refine way_of_hasWays (t := t) (fun l node h hnode ↦ ?_) rfl hway
    rw [get?_erase_of_ne, h]
    rintro rfl
    cases node with
    | directory mode => exact hget mode h
    | file _ _ => cases hnode
    | link target => exact hlink ⟨target, h⟩

/-- The file that was written beside is what the renaming takes away. -/
theorem WroteBeside.entry_eq {before : List String} {name name₁ : String} {r : Location × Nat}
    {dir₁ : Location} {slash : Bool} (hwrote : WroteBeside t t₂ tmp bytes before name r)
    (hsource : t₂.slot tmp = .ok (.entry dir₁ name₁ slash)) : name₁ :: dir₁ = name :: r.1 := by
  obtain ⟨-, before₁, k, m₁, hcheck, -, hway⟩ := exists_way_of_slot hsource
  have hne := (isIdle_eq_false_iff.1 hwrote.isEntryName.isIdle_eq).1
  have hparts := Except.ok.inj (hcheck.symm.trans hwrote.check_eq)
  obtain rfl : k = 0 := by
    cases k with
    | zero => rfl
    | succ k =>
      rw [List.replicate_succ', ← List.cons_append, ← List.append_assoc] at hparts
      exact absurd (List.singleton_inj.1 (List.append_inj' hparts rfl).2).symm hne
  obtain ⟨rfl, hlast⟩ := List.append_inj' hparts rfl
  have hway' : t₂.way tmp before₁ = .ok r :=
    way_of_hasWays hwrote.filled.hasWays hwrote.filled.workDir_eq hwrote.way_eq
  rw [hway] at hway'
  rw [← Except.ok.inj hway', List.singleton_inj.1 hlast]

/-- What is written beside a file is written to the directory of the file, under its other name. -/
theorem WroteBeside.eq_temporary {before before' : List String} {name name' : String}
    {r r' : Location × Nat} (hwrote : WroteBeside t t₂ tmp bytes before name r)
    (htmp : temporary p = some tmp) (hcheck : checkPath p = .ok (before' ++ [name']))
    (hname' : IsEntryName name') (hway : t.way p before' = .ok r') :
    name = "." ++ name' ++ ".tmp" ∧ r = r' := by
  obtain ⟨tmp', beforeTmp, htmp', habsolute, hparts, hbusy⟩ :=
    exists_temporary_eq (eq_parts_of_checkPath hcheck).symm hname'.isIdle_eq hname'.ne_up
  obtain rfl : tmp = tmp' := Option.some.inj (htmp.symm.trans htmp')
  rw [← eq_parts_of_checkPath hwrote.check_eq] at hparts
  obtain ⟨rfl, hlast⟩ := List.append_inj' hparts rfl
  have hsame : t.way tmp before = t.way p before' := by
    rw [way, way, origin_congr habsolute, follow_congr hbusy]
  exact ⟨List.singleton_inj.1 hlast, Except.ok.inj (hwrote.way_eq.symm.trans (hsame.trans hway))⟩

/-- The renaming replaces the file that the path names. -/
theorem exists_replaced_of_rename {before : List String} {name : String} {r : Location × Nat}
    (htmp : temporary p = some tmp) (hwrote : WroteBeside t t₂ tmp bytes before name r)
    (hrename : rename tmp p t₂ = .ok () t₃) (hdirect : IsDirect t p) :
    ∃ before' name' m, name = "." ++ name' ++ ".tmp" ∧
      Replaced t t₃ p bytes before' name' r.1 m := by
  have hfilled := hwrote.filled
  obtain ⟨dir₁, name₁, slash, dir, name', node, hsource, htarget, hnode, hdirectory, rfl⟩ :=
    rename_eq_ok hrename
  rw [hwrote.entry_eq hsource] at hnode ⊢
  obtain ⟨isExecutable, hself⟩ := hfilled.get?_self
  obtain rfl : Node.file bytes isExecutable = node := Option.some.inj (hself.symm.trans hnode)
  -- the path of the file, and the way to its directory
  have hname' := (exists_way_of_slot htarget).1
  obtain ⟨before', m, hcheck, hway₂⟩ := exists_way_of_slot_false htarget
  have hway : t.way p before' = .ok (dir, m) :=
    way_of_hasWays hfilled.hasWays_symm hfilled.workDir_eq.symm hway₂
  obtain ⟨rfl, rfl⟩ := hwrote.eq_temporary htmp hcheck hname' hway
  have hne : name' :: dir ≠ [] := List.cons_ne_nil name' dir
  have hapart : ("." ++ name' ++ ".tmp") :: dir ≠ name' :: dir := fun h ↦
    (temporary_ne name').2.2 (List.cons.inj h).1
  have hnotDirectory : ∀ mode, t.get? (name' :: dir) ≠ some (.directory mode) := by
    intro mode h
    rw [← hfilled.get?_of_ne _ hapart.symm] at h
    exact hdirectory mode h
  refine ⟨before', name', m, rfl, hcheck, hname', hfilled.workDir_eq, hway,
    way_erase_of_isDirect hdirect hcheck hname' hway hnotDirectory, hfilled.hasWays_moved hne _,
    ⟨isExecutable, get?_set_self _ _ hne⟩, ?_, fun l hl hl' ↦ hfilled.get?_moved _ hl hl'⟩
  rw [get?_set_of_ne _ _ hapart, get?_erase_self _ hfilled.ne_root]

end NetReconcile.FileTree
