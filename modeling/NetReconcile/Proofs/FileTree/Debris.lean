import NetReconcile.Proofs.FileTree.Link

/-!
# What a failed write leaves behind

A file is written under another name first. A write that fails before that file is made leaves no
new file, but from there on no step that fails takes the file away: it stays under its other name,
or where that leads to if it is a link, until a later write of the same path uses it up. The error
says which of the two it is. The last step, which opens the directory of the file that has been
replaced, comes too late to leave anything under the other name; then the file is in its place.

## Main definitions

* `FileTree.IsNewFile`: a file is where there was none.
* `FileTree.Leaves`: what a failed write leaves behind.

## Main statements

* `FileTree.walk_of_filled`: a file that was opened to write it is found by the path it was opened
  by.
* `FileTree.leaves_write`: what failed writes leave behind is described by the error.
-/

namespace NetReconcile.FileTree

variable {t t' t₂ t₃ s : FileTree} {p tmp : FilePath} {bytes : List UInt8} {loc : Location}
  {links : Nat} {dir : Location} {ps : List String}

/-! ### New files -/

/-- A file is at a location. -/
def IsFile (t : FileTree) (loc : Location) : Prop :=
  ∃ bytes isExecutable, t.get? loc = some (.file bytes isExecutable)

/-- A file is at a location of the second tree, and there is none in the first tree. -/
def IsNewFile (t t' : FileTree) (loc : Location) : Prop :=
  t'.IsFile loc ∧ ¬t.IsFile loc

/-- The location that a walk ends at. -/
def Place.location : Place → Location
  | .existing loc => loc
  | .absent dir name => name :: dir

/-- What is left behind, besides directories, when a path was to be written and there was an error.
`s` is the tree in which the file was to be made, with the directories that lead to it. -/
inductive Leaves (t s : FileTree) (p : FilePath) (bytes : List UInt8) : HostError → FileTree → Prop
  /-- The file was not made under its other name. No file is new. -/
  | nothing {e : HostError} {t' : FileTree}
      (hstep : e = .invalidPath p ∨ (∃ q e', e = .during (.createDirectory q) e') ∨
        ∃ tmp e', e = .during (.createFile tmp) e')
      (hnew : ∀ l, ¬IsNewFile t t' l) : Leaves t s p bytes e t'
  /-- The file was made under its other name and is left there. No other file is new, and this one
  is unless there was one before. -/
  | beside {e e' : HostError} {t' : FileTree} {tmp : FilePath} {loc : Location}
      (hstep : e = .during (.writeFile p) e' ∨ e = .during (.renameFile tmp p) e')
      (htmp : temporary p = some tmp) (hopen : t'.openPath tmp = .ok loc)
      (hcontents : t'.contents loc = .ok bytes)
      (hnew : ∀ l, IsNewFile t t' l ↔ l = loc ∧ ¬t.IsFile loc) : Leaves t s p bytes e t'
  /-- The file was made and renamed. No file is new but what was written, at the entry of the path
  or at the location that the other name led to. -/
  | inPlace {e' : HostError} {t' : FileTree} {tmp holder : FilePath} {place : Place}
      {dir : Location} {name : String} (hholder : holder? p = some holder)
      (htmp : temporary p = some tmp) (hplace : s.locate .file tmp = .ok place)
      (hslot : s.slot p = .ok (.entry dir name false))
      (hnew : ∀ l, IsNewFile t t' l →
        (l = name :: dir ∨ l = place.location) ∧ t'.contents l = .ok bytes) :
    Leaves t s p bytes (.during (.openDirectory holder) e') t'

/-! ### Files that are opened to write them -/

/-- Where a walk finds no entry, there is none. -/
theorem get?_of_absent {goal : Goal} {name : String}
    (h : t.walk goal links dir ps = .ok (.absent loc name)) : t.get? (name :: loc) = none := by
  fun_induction walk t goal links dir ps with
  | case1 | case4 | case5 | case7 | case9 | case10 | case11 | case12 => cases h
  | case2 links dir part rest hidle ih | case3 links dir rest hidle ih => exact ih h
  | case6 links dir part hidle hup hlong hget hslash =>
    cases h
    exact hget
  | case8 links dir part rest hidle hup hslash hlong mode hget ih
  | case13 dir part rest hidle hup hslash hlong target hget hend links ih => exact ih h

/-- A file that was opened to write it is found at the end of the walk that it was opened by. -/
theorem walk_of_filled {place : Place} (hf : Filled t t' loc bytes)
    (h : t.walk .file links dir ps = .ok place) (hplace : place.location = loc) :
    t'.walk .node links dir ps = .ok (.existing loc) := by
  obtain ⟨isExecutable, hself⟩ := hf.get?_self
  generalize hgoal : Goal.file = goal at h
  fun_induction walk t goal links dir ps with
  | case1 links dir =>
    cases h
    rw [walk]
    exact congrArg _ (congrArg _ hplace)
  | case2 links dir part rest hidle ih => exact (walk_of_isIdle hidle).trans (ih h)
  | case3 links dir rest hidle ih =>
    rw [walk, if_neg hidle, if_pos rfl]
    exact ih h
  | case4 | case5 | case7 | case10 | case12 => cases h
  | case6 links dir part hidle hup hlong hget hslash =>
    -- the file that was made
    cases h
    obtain rfl : part :: dir = loc := hplace
    rw [walk_of_isEntryName (isEntryName_of hidle hup hlong) rfl, hself]
    rfl
  | case8 links dir part rest hidle hup hslash hlong mode hget ih =>
    rw [walk_of_isEntryName (isEntryName_of hidle hup hlong) rfl, hf.hasWays _ _ hget rfl]
    exact ih h
  | case9 links dir part hidle hup hlong old x hget hslash =>
    -- the file that was there
    cases h
    obtain rfl : part :: dir = loc := hplace
    rw [walk_of_isEntryName (isEntryName_of hidle hup hlong) rfl, hself]
    rfl
  | case11 links dir part rest hidle hup hslash hlong target hget hend =>
    simp [← hgoal] at hend
  | case13 dir part rest hidle hup hslash hlong target hget hend links ih =>
    rw [walk_of_isEntryName (isEntryName_of hidle hup hlong) rfl, hf.hasWays _ _ hget rfl]
    refine (if_neg (by simp)).trans ?_
    exact ih h

/-- Opening a file to write it leads to a location where a file is made, in the place of a file or
of nothing. -/
theorem createFile_eq_ok (h : createFile p t = .ok loc t') :
    ∃ place isExecutable, t.locate .file p = .ok place ∧ place.location = loc ∧ loc ≠ [] ∧
      (∀ node, t.get? loc = some node → node.isOnWays = false) ∧
      t' = t.set loc (.file [] isExecutable) := by
  rw [createFile_eq] at h
  split at h
  · cases h
  · rename_i dir name hplace
    cases h
    have hnone : t.get? (name :: dir) = none := by
      obtain ⟨ps, -, hwalk⟩ := bind_eq_ok_iff.1 hplace
      exact get?_of_absent (ofWalk_eq_ok_iff.1 hwalk)
    refine ⟨_, false, hplace, rfl, List.cons_ne_nil name dir, fun node hget ↦ ?_, rfl⟩
    rw [hnone] at hget
    cases hget
  · rename_i loc' hplace
    split at h
    · rename_i old isExecutable hget
      cases h
      refine ⟨_, isExecutable, hplace, rfl, ?_, fun node hget' ↦ ?_, rfl⟩
      · rintro rfl
        rw [get?_root] at hget
        cases hget
      · rw [hget] at hget'
        cases hget'
        rfl
    · cases h

/-- A file that was opened to write it is opened by the same path afterwards. -/
theorem openPath_of_filled {place : Place} (hf : Filled t t' loc bytes)
    (hplace : t.locate .file p = .ok place) (hloc : place.location = loc) :
    t'.openPath p = .ok loc := by
  obtain ⟨ps, hcheck, hwalk⟩ := bind_eq_ok_iff.1 hplace
  have hlocate : t'.locate .node p = .ok (.existing loc) := by
    rw [locate, hcheck, hf.workDir_eq]
    exact congrArg ofWalk (walk_of_filled hf (ofWalk_eq_ok_iff.1 hwalk) hloc)
  rw [openPath, hlocate]
  rfl

/-- What was written under the other name of a file is found by that name. -/
theorem MadeBeside.exists_filled (hmade : MadeBeside t t₂ p tmp bytes loc) :
    Filled t t₂ loc bytes ∧ t₂.openPath tmp = .ok loc ∧
      ∃ place, t.locate .file tmp = .ok place ∧ place.location = loc := by
  obtain ⟨t₁, hcreate, hfill⟩ := hmade.exists_createFile_eq
  obtain ⟨place, isExecutable, hplace, hloc, hne, hways, rfl⟩ := createFile_eq_ok hcreate
  obtain ⟨t₂', hfill', hfilled⟩ := filled_set_set hne hways isExecutable bytes
  obtain rfl : t₂' = t₂ := by
    rw [hfill] at hfill'
    cases hfill'
    rfl
  exact ⟨hfilled, openPath_of_filled hfilled hplace hloc, place, hplace, hloc⟩

/-! ### What is new -/

/-- Directories that are made leave all files where they are, and are none. -/
theorem isFile_prepared_iff (t : FileTree) (p : FilePath) (l : Location) :
    (t.prepared p).IsFile l ↔ t.IsFile l := by
  have hgrown := t.grown_prepared p
  constructor
  · rintro ⟨bytes, isExecutable, hget⟩
    cases hbefore : t.get? l with
    | none =>
      obtain ⟨⟨mode, hnode⟩, -⟩ := hgrown.exists_of_new l _ hget hbefore
      cases hnode
    | some node =>
      rw [hgrown.get?_eq l node hbefore] at hget
      exact ⟨bytes, isExecutable, hbefore.trans hget⟩
  · rintro ⟨bytes, isExecutable, hget⟩
    exact ⟨bytes, isExecutable, hgrown.get?_eq l _ hget⟩

/-- The contents of a file are read off its entry. -/
theorem contents_of_get? {isExecutable : Bool} (h : t.get? loc = some (.file bytes isExecutable)) :
    t.contents loc = .ok bytes := by
  rw [contents, h]

/-- Where a file was written, no other file is new. -/
theorem isNewFile_filled_iff (hf : Filled s t' loc bytes) (hfiles : ∀ l, s.IsFile l ↔ t.IsFile l)
    (l : Location) : IsNewFile t t' l ↔ l = loc ∧ ¬t.IsFile loc := by
  obtain ⟨isExecutable, hself⟩ := hf.get?_self
  by_cases hl : l = loc
  · subst hl
    exact ⟨fun h ↦ ⟨rfl, h.2⟩, fun h ↦ ⟨⟨bytes, isExecutable, hself⟩, h.2⟩⟩
  · refine ⟨fun h ↦ absurd ?_ h.2, fun h ↦ absurd h.1 hl⟩
    obtain ⟨old, x, hget⟩ := h.1
    rw [hf.get?_of_ne l hl] at hget
    exact (hfiles l).1 ⟨old, x, hget⟩

/-- No slash follows the other name of a file. -/
theorem slash_eq_of_temporary {name : String} {slash : Bool} (htmp : temporary p = some tmp)
    (hslot : t.slot tmp = .ok (.entry dir name slash)) : slash = false := by
  obtain ⟨before, last, hparts⟩ := exists_parts_of_temporary htmp
  obtain ⟨-, before', k, m, hcheck, rfl, -⟩ := exists_way_of_slot hslot
  rw [← eq_parts_of_checkPath hcheck] at hparts
  cases k with
  | zero => rfl
  | succ k =>
    rw [List.replicate_succ', ← List.cons_append, ← List.append_assoc] at hparts
    have hidle := (temporary_ne last).1
    rw [← List.singleton_inj.1 (List.append_inj' hparts rfl).2] at hidle
    cases hidle

/-- An entry that is a file is opened by every path that says its directory and its name. -/
theorem openPath_of_slot {name : String} {isExecutable : Bool}
    (hslot : t.slot p = .ok (.entry dir name false))
    (hget : t.get? (name :: dir) = some (.file bytes isExecutable)) :
    t.openPath p = .ok (name :: dir) := by
  have hname := (exists_way_of_slot hslot).1
  obtain ⟨before, m, hcheck, hway⟩ := exists_way_of_slot_false hslot
  have hlocate : t.locate .node p = .ok (.existing (name :: dir)) := by
    rw [locate_eq hcheck hname.isIdle_eq, hway]
    show ofWalk (t.walk .node m dir [name]) = _
    rw [walk_singleton hname, hget]
    rfl
  rw [openPath, hlocate]
  rfl

/-- Where a file was written under the other name and that was renamed, what is new is the file, at
the entry of the path or where the other name led to. -/
theorem MadeBeside.exists_of_rename (hmade : MadeBeside s t₂ p tmp bytes loc)
    (hrename : rename tmp p t₂ = .ok () t₃) (hfiles : ∀ l, s.IsFile l ↔ t.IsFile l) :
    ∃ dir name, s.slot p = .ok (.entry dir name false) ∧
      ∀ l, IsNewFile t t₃ l → (l = name :: dir ∨ l = loc) ∧ t₃.contents l = .ok bytes := by
  obtain ⟨hfilled, hopen, -⟩ := hmade.exists_filled
  obtain ⟨isExecutable, hself⟩ := hfilled.get?_self
  obtain ⟨dir₁, name₁, slash, dir, name, node, hsource, htarget, hnode, -, rfl⟩ :=
    rename_eq_ok hrename
  obtain rfl := slash_eq_of_temporary hmade.temporary_eq hsource
  refine ⟨dir, name, slot_of_hasWays hfilled.hasWays_symm hfilled.workDir_eq.symm htarget,
    fun l hl ↦ ?_⟩
  obtain ⟨⟨new, x, hget⟩, hold⟩ := hl
  rw [contents_of_get? hget]
  by_cases hentry : l = name :: dir
  · -- a file was renamed, and so it is the one that was written
    subst hentry
    rw [get?_set_self _ _ (List.cons_ne_nil name dir)] at hget
    obtain rfl := Option.some.inj hget
    obtain rfl : loc = name₁ :: dir₁ := by
      rw [openPath_of_slot hsource hnode] at hopen
      exact (Except.ok.inj hopen).symm
    rw [hself] at hnode
    cases hnode
    exact ⟨.inl rfl, rfl⟩
  · have hmoved : l ≠ name₁ :: dir₁ := by
      rintro rfl
      rw [get?_set_of_ne _ _ hentry, get?_erase_self _ (List.cons_ne_nil name₁ dir₁)] at hget
      cases hget
    rw [get?_set_of_ne _ _ hentry, get?_erase_of_ne _ hmoved] at hget
    obtain ⟨rfl, -⟩ := (isNewFile_filled_iff hfilled hfiles l).1 ⟨⟨new, x, hget⟩, hold⟩
    rw [hself] at hget
    cases hget
    exact ⟨.inr rfl, rfl⟩

/-! ### Failed writes -/

/-- Where directories cannot be made, the error says which of them could not. -/
theorem exists_during_of_makeAll {mode : Nat} {qs : List FilePath} {e : HostError}
    (h : makeAll mode qs t = .error e t') : ∃ q e', e = .during (.createDirectory q) e' := by
  induction qs generalizing t with
  | nil => cases h
  | cons q qs ih =>
    cases hmake : makeMissing mode q t with
    | ok u t₁ =>
      have hall : makeAll mode (q :: qs) t = makeAll mode qs t₁ := bind_of_ok hmake
      exact ih (hall.symm.trans h)
    | error e₁ t₁ =>
      have hall : makeAll mode (q :: qs) t = .error e₁ t₁ := bind_of_error hmake
      obtain ⟨rfl, -⟩ : e₁ = e ∧ t₁ = t' := by simpa using hall.symm.trans h
      unfold makeMissing at hmake
      split at hmake
      · cases hmake
      · cases hmake
      · cases hmake
        exact ⟨_, _, rfl⟩

theorem exists_during_of_makeParents {e : HostError} (h : makeParents p t = .error e t') :
    ∃ q e', e = .during (.createDirectory q) e' := by
  unfold makeParents at h
  cases hparent : p.parent? with
  | none =>
    rw [hparent] at h
    cases h
  | some dir =>
    rw [hparent] at h
    dsimp only at h
    split at h
    · cases h
    · exact exists_during_of_makeAll h

/-- What is left when a file was to be replaced and there was an error, seen from a tree with the
same files. -/
theorem leaves_replaceFile {failure : Option HostError} {e : HostError}
    (hfiles : ∀ l, s.IsFile l ↔ t.IsFile l) (h : replaceFile p bytes failure s = .error e t') :
    Leaves t s p bytes e t' := by
  have hends := replaceEnds_replaceFile s p bytes failure
  have hsame : ∀ l, ¬IsNewFile t s l := fun l hl ↦ hl.2 ((hfiles l).1 hl.1)
  rw [h] at hends
  cases hends with
  | unnamed => exact .nothing (.inl rfl) hsame
  | unmade tmp e => exact .nothing (.inr (.inr ⟨tmp, e, rfl⟩)) hsame
  | unwritten hmade hfailure =>
    obtain ⟨hfilled, hopen, -⟩ := hmade.exists_filled
    obtain ⟨isExecutable, hself⟩ := hfilled.get?_self
    exact .beside (.inl rfl) hmade.temporary_eq hopen (contents_of_get? hself)
      (isNewFile_filled_iff hfilled hfiles)
  | unmoved e hmade =>
    obtain ⟨hfilled, hopen, -⟩ := hmade.exists_filled
    obtain ⟨isExecutable, hself⟩ := hfilled.get?_self
    exact .beside (.inr rfl) hmade.temporary_eq hopen (contents_of_get? hself)
      (isNewFile_filled_iff hfilled hfiles)
  | unopened e hmade hrename hholder hopen =>
    obtain ⟨-, -, place, hplace, rfl⟩ := hmade.exists_filled
    obtain ⟨dir, name, hslot, hnew⟩ := hmade.exists_of_rename hrename hfiles
    exact .inPlace hholder hmade.temporary_eq hplace hslot hnew

/-- What a failed write leaves behind is told by its error: no new file if the file was not made
under its other name, that file alone if it was made and not renamed, and the file in its place if
its directory cannot be opened in the end. -/
theorem leaves_write (t : FileTree) (p : FilePath) :
    (∀ contents e t', writeFile p contents t = .error e t' →
      Leaves t (t.prepared p) p (Text.toBytes contents) e t') ∧
    ∀ bytes failure e t', replaceFile p bytes failure t = .error e t' →
      Leaves t t p bytes e t' := by
  refine ⟨fun contents e t' h ↦ ?_, fun bytes failure e t' h ↦ leaves_replaceFile (fun _ ↦ .rfl) h⟩
  rw [writeFile_eq] at h
  cases hparents : makeParents p t with
  | ok u t₁ =>
    rw [bind_of_ok hparents] at h
    obtain rfl : t.prepared p = t₁ := by rw [prepared, after, hparents]
    exact leaves_replaceFile (t.isFile_prepared_iff p) h
  | error e₁ t₁ =>
    rw [bind_of_error hparents] at h
    obtain ⟨rfl, rfl⟩ : e₁ = e ∧ t₁ = t' := by simpa using h
    obtain rfl : t.prepared p = t₁ := by rw [prepared, after, hparents]
    exact .nothing (.inr (.inl (exists_during_of_makeParents hparents))) fun l hl ↦
      hl.2 ((t.isFile_prepared_iff p l).1 hl.1)

/-! ### A directory in the way -/

section

-- what it takes to walk a path on a tree that is written out
attribute [local simp] locate slot splitLast walkDirectory walk isIdle isSlashes get? find? origin
  FilePath.isAbsolute linkLimit nameLimit ofWalk bind Except.bind pure Except.pure

-- and to make calls there
attribute [local simp] EStateM.bind EStateM.pure createFile_eq fill_eq rename_eq set setIn erase

/-- A tree with a directory and nothing else. -/
def lone : FileTree where
  entries := [(["d"], .directory 0o755)]

/-- A file cannot be renamed over a directory. -/
theorem writeFile_lone :
    writeFile ⟨"d"⟩ "x" lone =
      .error (.during (.renameFile ⟨"./.d.tmp"⟩ ⟨"d"⟩) (.system .isDirectory))
        { entries := [(["d"], .directory 0o755),
            ([".d.tmp"], .file (Text.toBytes "x") false)] } := by
  have hsizes : "d".utf8ByteSize = 1 ∧ ".d.tmp".utf8ByteSize = 6 := by decide +kernel
  have hd : checkPath ⟨"d"⟩ = .ok ["d"] := checkPath_eq_ok_iff.2 (by decide +kernel)
  have htmp : checkPath ⟨"./.d.tmp"⟩ = .ok [".", ".d.tmp"] :=
    checkPath_eq_ok_iff.2 (by decide +kernel)
  have hparent : FilePath.parent? ⟨"d"⟩ = some ⟨""⟩ := by decide +kernel
  have htemporary : temporary ⟨"d"⟩ = some ⟨"./.d.tmp"⟩ := by decide +kernel
  have hparents : makeParents ⟨"d"⟩ lone = .ok () lone := by simp [makeParents, hparent]
  rw [writeFile_eq, bind_of_ok hparents]
  simp [lone, replaceFile, holder?, within, EStateM.adaptExcept, htemporary, hparent, hd, htmp,
    hsizes]

/-- A file whose writing fails. -/
theorem replaceFile_lone :
    replaceFile ⟨"n"⟩ [0x78] (some (.reported "disk full")) lone =
      .error (.during (.writeFile ⟨"n"⟩) (.reported "disk full"))
        { entries := [(["d"], .directory 0o755), ([".n.tmp"], .file [0x78] false)] } := by
  have hsize : ".n.tmp".utf8ByteSize = 6 := by decide +kernel
  have htmp : checkPath ⟨"./.n.tmp"⟩ = .ok [".", ".n.tmp"] :=
    checkPath_eq_ok_iff.2 (by decide +kernel)
  have hparent : FilePath.parent? ⟨"n"⟩ = some ⟨""⟩ := by decide +kernel
  have htemporary : temporary ⟨"n"⟩ = some ⟨"./.n.tmp"⟩ := by decide +kernel
  have hfail (e : HostError) (t : FileTree) : (throw e : Change Unit) t = .error e t := rfl
  simp [lone, replaceFile, holder?, within, EStateM.adaptExcept, hfail, htemporary, hparent, htmp,
    hsize]

/-- A tree with a directory and a file: a file cannot take the place of the directory, and stays
under the other name; a device that is full stops the other write before it renames. -/
theorem leaves_lone :
    (∃ e t', writeFile ⟨"d"⟩ "x" lone = .error e t' ∧
      Leaves lone (lone.prepared ⟨"d"⟩) ⟨"d"⟩ (Text.toBytes "x") e t') ∧
    ∃ e t', replaceFile ⟨"n"⟩ [0x78] (some (.reported "disk full")) lone = .error e t' ∧
      Leaves lone lone ⟨"n"⟩ [0x78] e t' :=
  ⟨⟨_, _, writeFile_lone, (leaves_write lone ⟨"d"⟩).1 _ _ _ writeFile_lone⟩,
    _, _, replaceFile_lone, (leaves_write lone ⟨"n"⟩).2 _ _ _ _ replaceFile_lone⟩

/-- What was written is left beside the directory. -/
theorem isNewFile_lone :
    ∃ e t', writeFile ⟨"d"⟩ "x" lone = .error e t' ∧ IsNewFile lone t' [".d.tmp"] := by
  refine ⟨_, _, writeFile_lone, ⟨_, _, rfl⟩, ?_⟩
  rintro ⟨bytes, isExecutable, hget⟩
  cases hget

end

end NetReconcile.FileTree
