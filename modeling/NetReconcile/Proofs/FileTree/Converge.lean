import NetReconcile.Materialize
import NetReconcile.Proofs.FileTree.Replace

/-!
# Making a file of a tree hold a text

`converge` on a file tree is an update of one file that is made as a whole or not at all. If it
finds the text in place, or fails, what was there before stays. If it writes, the file is read as
the text afterwards, and beside the file only missing directories were made, namely those that lead
to it. A file that was left beside it from an update that was cut short is all that may go or
change.

There is one way to end up with a file that cannot be read, which is a path that leads through the
file itself: a link is replaced by a file, and whoever follows the path finds no directory there.

## Main definitions

* `FileTree.prepared`: a tree with the directories that lead to a file.
* `FileTree.LeadsTo`: a path leads to an entry.
* `FileTree.Spared`, `FileTree.Updated`, `FileTree.Converged`: what the update comes to.

## Main statements

* `FileTree.converged_converge`: the update comes to this, on every tree on which the way to the
  file does not lead through the file and the name beside it is no link.

## What the two conditions are for

A file is written under another name and renamed. If the other name is a link, what is written goes
where it leads, and the renaming puts the link in the place of the file. If the way to the file
leads through a link that is the entry of the file itself, the renaming cuts that way off. On such a
tree the update reports a success after which the file cannot be read; `not_converged_throughItself`
is about one of them. Both conditions are asked of the tree with the directories that the update
makes, since only there the path leads anywhere.
-/

namespace NetReconcile.FileTree

variable {t t₁ t₃ : FileTree} {p : FilePath} {contents : String}

/-! ### The directories of a file -/

/-- Makes the directories that lead to a file. -/
def makeParents (p : FilePath) : Change Unit :=
  match p.parent? with
  | some dir => if dir.text = "" then pure () else makeDirectories dir defaultMode
  | none => pure ()

/-- Writing a file is making the directories that lead to it, and then replacing it. -/
theorem writeFile_eq (p : FilePath) (contents : String) :
    writeFile p contents =
      makeParents p >>= fun _ ↦ replaceFile p (Text.toBytes contents) none := by
  unfold writeFile makeParents
  cases p.parent? with
  | none => rfl
  | some dir =>
    dsimp only
    by_cases hempty : dir.text = ""
    · simp [hempty]
    · simp [hempty]

/-- The tree in which a file is written: the directories that lead to it have been made, as far as
that is possible. -/
def prepared (t : FileTree) (p : FilePath) : FileTree :=
  after (makeParents p) t

/-- The paths of the directories that lead to a file. -/
def parentPaths (p : FilePath) : List FilePath :=
  match p.parent? with
  | some dir => dir.leading
  | none => []

/-- Preparing a tree for a file only adds directories that lead to that file. -/
theorem grown_prepared (t : FileTree) (p : FilePath) : Grown (parentPaths p) t (t.prepared p) := by
  unfold prepared makeParents parentPaths
  cases p.parent? with
  | none => exact .refl [] t
  | some dir =>
    dsimp only
    split
    · exact .refl _ t
    · exact grown_makeAll defaultMode dir.leading t

/-- A directory that leads to a file says the first parts of the way to its directory. -/
theorem parts_of_mem_parentPaths {holder q : FilePath} (hholder : holder? p = some holder)
    (hq : q ∈ parentPaths p) :
    q.isAbsolute = holder.isAbsolute ∧ (∃ rest, parts holder.text = parts q.text ++ rest) ∧
      ∀ ps, checkPath holder = .ok ps → checkPath q = .ok (parts q.text) := by
  unfold parentPaths at hq
  unfold holder? at hholder
  cases hparent : p.parent? with
  | none =>
    rw [hparent] at hholder
    cases hholder
  | some dir =>
    rw [hparent] at hholder hq
    have hne : dir.text ≠ "" := by
      intro hempty
      simp [FilePath.leading, hempty, FilePath.startsFrom] at hq
    rw [Option.map_some, if_neg hne] at hholder
    obtain rfl := Option.some.inj hholder
    exact (exists_parts_of_mem_leading hq).2

/-! ### What an update comes to -/

/-- A path leads to an entry, which may be a link. -/
def LeadsTo (t : FileTree) (p : FilePath) (loc : Location) : Prop :=
  t.locate .entry p = .ok (.existing loc)

/-- A file has the name beside another one, under which that is written first. -/
def IsStale (t : FileTree) (p : FilePath) (loc : Location) : Prop :=
  (∃ bytes isExecutable, t.get? loc = some (.file bytes isExecutable)) ∧
    ∃ tmp, temporary p = some tmp ∧ (t.prepared p).LeadsTo tmp loc

/-- All that was there is still there, but for a file that was left beside another one. -/
def Spared (t t' : FileTree) (p : FilePath) : Prop :=
  ∀ loc node, t.get? loc = some node → t'.get? loc = some node ∨ t.IsStale p loc

/-- One file of a tree was replaced. -/
structure Updated (t t' : FileTree) (p : FilePath) (contents : String) : Prop where
  reads : t'.readText p = .ok contents
  /-- All that was there is still there, but for what was at the entry of the file and a file that
  was left beside it. -/
  kept : ∀ loc node, t.get? loc = some node →
    t'.get? loc = some node ∨ (t.prepared p).LeadsTo p loc ∨ t.IsStale p loc
  /-- What is new is the file, and directories that lead to it. -/
  added : ∀ loc node, t'.get? loc = some node → t.get? loc = none →
    t'.LeadsTo p loc ∨
      (∃ mode, node = .directory mode) ∧ ∃ q ∈ parentPaths p, t'.openPath q = .ok loc
  again : converge p contents t' = .ok false t'

/-- What making a file hold a text comes to. -/
def Converged (t : FileTree) (p : FilePath) (contents : String) :
    EStateM.Result HostError FileTree Bool → Prop
  | .ok false t' =>
    t' = t ∧ t.readText p = .ok contents ∧ converge p contents t' = .ok false t'
  | .ok true t' => t.Updated t' p contents
  | .error _ t' => t.Spared t' p

/-! ### Where paths lead -/

section

variable {before : List String} {name : String} {dir loc : Location} {m : Nat} {q : FilePath}

/-- A path leads to an entry that is where its way and its last part lead. -/
theorem leadsTo_of_way {node : Node} (hcheck : checkPath p = .ok (before ++ [name]))
    (hname : IsEntryName name) (hway : t.way p before = .ok (dir, m))
    (hget : t.get? (name :: dir) = some node) : t.LeadsTo p (name :: dir) := by
  rw [LeadsTo, locate_eq hcheck hname.isIdle_eq, hway]
  show ofWalk (t.walk .entry m dir [name]) = _
  rw [walk_singleton hname, hget]
  cases node with
  | directory | file | link => rfl

/-- A file is read where its way and its last part lead. -/
theorem readText_of_way {isExecutable : Bool} (hcheck : checkPath p = .ok (before ++ [name]))
    (hname : IsEntryName name) (hway : t.way p before = .ok (dir, m))
    (hget : t.get? (name :: dir) = some (.file (Text.toBytes contents) isExecutable)) :
    t.readText p = .ok contents := by
  have hlocate : t.locate .node p = .ok (.existing (name :: dir)) := by
    rw [locate_eq hcheck hname.isIdle_eq, hway]
    show ofWalk (t.walk .node m dir [name]) = _
    rw [walk_singleton hname, hget]
    rfl
  have hopen : t.openPath p = .ok (name :: dir) := by
    rw [openPath, hlocate]
    rfl
  have hbytes : t.readBytes p = .ok (Text.toBytes contents) := by
    rw [readBytes, hopen]
    show t.contents (name :: dir) = _
    rw [FileTree.contents, hget]
  simp [readText, hbytes, Text.ofBytes?_toBytes, bind, Except.bind, pure, Except.pure]

/-- A directory is opened where its way leads. -/
theorem openPath_of_way (hcheck : checkPath q = .ok (parts q.text))
    (hway : t.way q (parts q.text) = .ok (loc, m)) : t.openPath q = .ok loc := by
  have hlocate : t.locate .node q = .ok (.existing loc) := by
    rw [locate, hcheck]
    exact congrArg ofWalk (walk_of_follow hway)
  rw [openPath, hlocate]
  rfl

end

/-! ### After a replacement -/

namespace Replaced

variable {bytes : List UInt8} {before : List String} {name : String} {dir : Location} {m : Nat}

/-- The way to the directory is the same on the new tree. -/
theorem way_after (hr : Replaced t t₃ p bytes before name dir m) :
    t₃.way p before = .ok (dir, m) :=
  way_of_hasWays hr.hasWays hr.workDir_eq hr.way_erase_eq

/-- The directory of the file can be opened. -/
theorem openPath_holder (hr : Replaced t t₃ p bytes before name dir m) {holder : FilePath}
    (hholder : holder? p = some holder) : t₃.openPath holder = .ok dir := by
  obtain ⟨holder', hholder', -, habsolute, hbusy, hcheck⟩ :=
    exists_holder?_eq (eq_parts_of_checkPath hr.check_eq).symm hr.isEntryName.isIdle_eq
  obtain rfl : holder = holder' := Option.some.inj (hholder.symm.trans hholder')
  refine openPath_of_way (m := m) (hcheck _ hr.check_eq) ?_
  rw [way, origin_congr habsolute, follow_congr hbusy]
  exact hr.way_after

/-- A directory that led to the file before the replacement still does. -/
theorem openPath_of_mem_parentPaths (hr : Replaced t t₃ p bytes before name dir m) {q : FilePath}
    (hq : q ∈ parentPaths p) {loc : Location} {k : Nat}
    (hway : t.way q (parts q.text) = .ok (loc, k)) : t₃.openPath q = .ok loc := by
  obtain ⟨holder, hholder, -, habsolute, hbusy, hcheck⟩ :=
    exists_holder?_eq (eq_parts_of_checkPath hr.check_eq).symm hr.isEntryName.isIdle_eq
  obtain ⟨habsolute', ⟨rest, hrest⟩, hcheck'⟩ := parts_of_mem_parentPaths hholder hq
  -- the way to the directory of the file, without the old entry, begins with that of `q`
  have hall : (t.erase (name :: dir)).way q (parts q.text ++ rest) = .ok (dir, m) := by
    rw [← hr.way_erase_eq, ← hrest, way, way, origin_congr (habsolute'.trans habsolute),
      follow_congr hbusy]
  obtain ⟨r, hbegin⟩ := exists_follow_of_append hall
  have hbefore : t.way q (parts q.text) = .ok r :=
    way_of_hasWays (hasWays_erase t _ (List.cons_ne_nil name dir)) rfl hbegin
  obtain rfl : r = (loc, k) := Except.ok.inj (hbefore.symm.trans hway)
  exact openPath_of_way (hcheck' _ (hcheck _ hr.check_eq))
    (way_of_hasWays hr.hasWays hr.workDir_eq hbegin)

end Replaced

/-! ### Reading -/

/-- Reading changes nothing, and what is read is what the path leads to. -/
theorem readFile_eq_ok {current : Option String} {t' : FileTree}
    (h : readFile p t = .ok current t') :
    t' = t ∧ ∀ text, current = some text → t.readText p = .ok text := by
  unfold readFile at h
  cases hread : t.readText p with
  | ok text =>
    rw [hread] at h
    cases h
    exact ⟨rfl, fun text' heq ↦ congrArg _ (Option.some.inj heq)⟩
  | error e =>
    rw [hread] at h
    split at h
    · rename_i heq
      cases heq
    · cases h
      exact ⟨rfl, fun text heq ↦ by cases heq⟩
    · cases h

theorem readFile_eq_error {e : HostError} {t' : FileTree} (h : readFile p t = .error e t') :
    t' = t := by
  unfold readFile at h
  split at h
  · cases h
  · cases h
  · cases h
    rfl

/-- A file that holds its text is left alone. -/
theorem converge_of_readText (h : t.readText p = .ok contents) :
    converge p contents t = .ok false t := by
  have hread : (FileStore.read p : HostM FileTree (Option String)) t = .ok (some contents) t := by
    show readFile p t = _
    rw [readFile, h]
  refine (bind_of_ok (within_of_ok hread)).trans ?_
  rw [if_pos rfl]
  rfl

/-- A file that holds another text, or that is not there, is written. -/
theorem converge_of_ne {current : Option String} (hread : readFile p t = .ok current t)
    (hne : current ≠ some contents) :
    converge p contents t = (writeFile p contents >>= fun _ ↦ pure true) t := by
  refine (bind_of_ok (within_of_ok hread)).trans ?_
  rw [if_neg hne]
  rfl

/-! ### The update -/

section

variable {tmp : FilePath} {bytes : List UInt8} {before : List String} {name : String}
  {r : Location × Nat} {t₂ : FileTree}

/-- What was where the file is written first is a file that was left there. -/
theorem isStale_of_wroteBeside (htmp : temporary p = some tmp)
    (hwrote : WroteBeside (t.prepared p) t₂ tmp bytes before name r) {node : Node}
    (hget : t.get? (name :: r.1) = some node) : t.IsStale p (name :: r.1) := by
  have hkept := (t.grown_prepared p).get?_eq _ node hget
  refine ⟨?_, tmp, htmp,
    leadsTo_of_way hwrote.check_eq hwrote.isEntryName hwrote.way_eq hkept⟩
  have hoff := hwrote.filled.isOnWays_eq node hkept
  cases node with
  | directory | link => cases hoff
  | file bytes isExecutable => exact ⟨bytes, isExecutable, hget⟩

/-- What is written beside a file spares all else. -/
theorem spared_of_wroteBeside (htmp : temporary p = some tmp)
    (hwrote : WroteBeside (t.prepared p) t₂ tmp bytes before name r) : t.Spared t₂ p := by
  intro loc node h
  by_cases hloc : loc = name :: r.1
  · subst hloc
    exact .inr (isStale_of_wroteBeside htmp hwrote h)
  · have hkept := (t.grown_prepared p).get?_eq loc node h
    rw [← hwrote.filled.get?_of_ne loc hloc] at hkept
    exact .inl hkept

/-- What is read after a replacement, and what was changed by it. -/
theorem updated_of_replaced {before' : List String} {name' : String} {m : Nat}
    (htmp : temporary p = some tmp)
    (hwrote : WroteBeside (t.prepared p) t₂ tmp (Text.toBytes contents) before
      ("." ++ name' ++ ".tmp") r)
    (hr : Replaced (t.prepared p) t₃ p (Text.toBytes contents) before' name' r.1 m) :
    t.Updated t₃ p contents := by
  have hgrown := t.grown_prepared p
  obtain ⟨isExecutable, hself⟩ := hr.get?_self
  have hreads : t₃.readText p = .ok contents :=
    readText_of_way hr.check_eq hr.isEntryName hr.way_after hself
  refine ⟨hreads, fun loc node h ↦ ?_, fun loc node h hnone ↦ ?_, converge_of_readText hreads⟩
  · have hkept := hgrown.get?_eq loc node h
    by_cases hloc : loc = name' :: r.1
    · subst hloc
      exact .inr (.inl (leadsTo_of_way hr.check_eq hr.isEntryName hr.way_eq hkept))
    · by_cases hstale : loc = ("." ++ name' ++ ".tmp") :: r.1
      · subst hstale
        exact .inr (.inr (isStale_of_wroteBeside htmp hwrote h))
      · rw [← hr.get?_of_ne loc hloc hstale] at hkept
        exact .inl hkept
  · by_cases hloc : loc = name' :: r.1
    · subst hloc
      exact .inl (leadsTo_of_way hr.check_eq hr.isEntryName hr.way_after h)
    · have hstale : loc ≠ ("." ++ name' ++ ".tmp") :: r.1 := by
        rintro rfl
        rw [hr.get?_temporary] at h
        cases h
      rw [hr.get?_of_ne loc hloc hstale] at h
      obtain ⟨hnode, q, hq, k, hway⟩ := hgrown.exists_of_new loc node h hnone
      exact .inr ⟨hnode, q, hq, hr.openPath_of_mem_parentPaths hq hway⟩

end

/-- Writing a file fails where the directories that lead to it cannot be made, and is replacing the
file otherwise. -/
theorem writeFile_eq_or (t : FileTree) :
    (∃ e, writeFile p contents t = .error e (t.prepared p)) ∨
      writeFile p contents t = replaceFile p (Text.toBytes contents) none (t.prepared p) := by
  rw [writeFile_eq, prepared, after]
  cases hparents : makeParents p t with
  | error e t₁ => exact .inl ⟨e, bind_of_error hparents⟩
  | ok u t₁ => exact .inr (bind_of_ok hparents)

/-- Writing a file replaces it, or spares all that was there. -/
theorem converged_writeFile (t : FileTree)
    (hlink : ∀ tmp, temporary p = some tmp → (t.prepared p).readLink? tmp = none)
    (hdirect : (t.prepared p).IsDirect p) :
    t.Converged p contents ((writeFile p contents >>= fun _ ↦ pure true) t) := by
  have hkept : ∀ e, t.Converged p contents (.error e (t.prepared p)) :=
    fun e loc node h ↦ .inl ((t.grown_prepared p).get?_eq loc node h)
  rcases t.writeFile_eq_or with ⟨e, hwrite⟩ | hwrite
  · rw [bind_of_error hwrite]
    exact hkept e
  · have hreplaces := replaces_replaceFile (Text.toBytes contents) hlink
    generalize replaceFile p (Text.toBytes contents) none (t.prepared p) = result
      at hwrite hreplaces
    cases hreplaces with
    | refused e =>
      rw [bind_of_error hwrite]
      exact hkept e
    | left e htmp hwrote =>
      rw [bind_of_error hwrite]
      exact spared_of_wroteBeside htmp hwrote
    | unopened e e' htmp hwrote hrename hdir hopen =>
      -- the renaming has not taken away the directory of the file
      obtain ⟨_, _, _, -, hr⟩ := exists_replaced_of_rename htmp hwrote hrename hdirect
      rw [hr.openPath_holder hdir] at hopen
      cases hopen
    | replaced htmp hwrote hrename =>
      obtain ⟨_, _, _, rfl, hr⟩ := exists_replaced_of_rename htmp hwrote hrename hdirect
      rw [bind_of_ok hwrite]
      exact updated_of_replaced htmp hwrote hr

/-- Making a file hold a text is an update of one file that is made as a whole or not at all, if the
name beside the file is no link and the way to the file does not lead through a link that is the
file. -/
theorem converged_converge (t : FileTree) (p : FilePath) (contents : String)
    (hlink : ∀ tmp, temporary p = some tmp → (t.prepared p).readLink? tmp = none)
    (hdirect : (t.prepared p).IsDirect p) :
    t.Converged p contents (converge p contents t) := by
  cases hcurrent : readFile p t with
  | error e t' =>
    obtain rfl := readFile_eq_error hcurrent
    have hconverge : converge p contents t' = .error (.during (.readFile p) e) t' :=
      bind_of_error (within_of_error hcurrent)
    rw [hconverge]
    exact fun loc node h ↦ .inl h
  | ok current t' =>
    obtain ⟨rfl, hread⟩ := readFile_eq_ok hcurrent
    by_cases hsame : current = some contents
    · have htext := hread contents hsame
      rw [converge_of_readText htext]
      exact ⟨rfl, htext, converge_of_readText htext⟩
    · rw [converge_of_ne hcurrent hsame]
      exact converged_writeFile t' hlink hdirect

/-! ### Two trees -/

section

-- what it takes to walk a path on a tree that is written out
attribute [local simp] locate slot splitLast walkDirectory walk isIdle isSlashes get? find? origin
  FilePath.isAbsolute linkLimit nameLimit ofWalk bind Except.bind pure Except.pure

-- and to make calls there
attribute [local simp] EStateM.bind EStateM.pure makeDirectory_eq createFile_eq fill_eq rename_eq
  set setIn erase makeMissing makeAll makeDirectories makeParents

/-- A link in place of a file, and what an update that was cut short has left beside it. The
directory of both is reached through another link. -/
def cutShort : FileTree where
  entries := [(["c"], .link "a"), ([".c.tmp"], .file [0x61] false), (["b"], .link ".")]

/-- A tree on which an update was cut short: the file that it left beside its target is used up, and
the target holds its text. -/
theorem converged_cutShort :
    (∀ tmp, temporary ⟨"b/c"⟩ = some tmp → (cutShort.prepared ⟨"b/c"⟩).readLink? tmp = none) ∧
      (cutShort.prepared ⟨"b/c"⟩).IsDirect ⟨"b/c"⟩ ∧
      cutShort.Converged ⟨"b/c"⟩ "x" (converge ⟨"b/c"⟩ "x" cutShort) := by
  have hsizes : "b".utf8ByteSize = 1 ∧ "c".utf8ByteSize = 1 ∧ ".c.tmp".utf8ByteSize = 6 := by
    decide +kernel
  have hhere : parts "." = ["."] := by decide +kernel
  have hb : checkPath ⟨"b"⟩ = .ok ["b"] := checkPath_eq_ok_iff.2 (by decide +kernel)
  have hc : checkPath ⟨"b/c"⟩ = .ok ["b", "c"] := checkPath_eq_ok_iff.2 (by decide +kernel)
  have htmp : checkPath ⟨"b/.c.tmp"⟩ = .ok ["b", ".c.tmp"] :=
    checkPath_eq_ok_iff.2 (by decide +kernel)
  have hprepared : cutShort.prepared ⟨"b/c"⟩ = cutShort := by
    have hparent : FilePath.parent? ⟨"b/c"⟩ = some ⟨"b"⟩ := by decide +kernel
    have hleading : FilePath.leading ⟨"b"⟩ = [⟨"b"⟩] := by decide +kernel
    simp [prepared, after, cutShort, hparent, hleading, hb, hsizes]
  have hlink : ∀ tmp, temporary ⟨"b/c"⟩ = some tmp →
      (cutShort.prepared ⟨"b/c"⟩).readLink? tmp = none := by
    intro tmp h
    have htemporary : temporary ⟨"b/c"⟩ = some ⟨"b/.c.tmp"⟩ := by decide +kernel
    obtain rfl := Option.some.inj (htemporary.symm.trans h)
    rw [hprepared]
    simp [readLink?, cutShort, htmp, hsizes, hhere, Except.toOption]
  have hdirect : (cutShort.prepared ⟨"b/c"⟩).IsDirect ⟨"b/c"⟩ := by
    have hslot : cutShort.slot ⟨"b/c"⟩ = .ok (.entry [] "c" false) := by
      simp [cutShort, hc, hsizes, hhere]
    rw [hprepared]
    rintro dir name target h -
    cases hslot.symm.trans h
    simp [cutShort, hc, hsizes, hhere]
  exact ⟨hlink, hdirect, converged_converge cutShort ⟨"b/c"⟩ "x" hlink hdirect⟩

/-- A link to the directory that it is in, by way of a directory that is missing. -/
def throughItself : FileTree where
  entries := [(["l"], .link "y/..")]

/-- The way to the file leads through the file, and what is written cannot be read. -/
theorem not_converged_throughItself :
    (∀ tmp, temporary ⟨"y/../l/l"⟩ = some tmp →
        (throughItself.prepared ⟨"y/../l/l"⟩).readLink? tmp = none) ∧
      ¬throughItself.Converged ⟨"y/../l/l"⟩ "x" (converge ⟨"y/../l/l"⟩ "x" throughItself) := by
  have hsizes : "y".utf8ByteSize = 1 ∧ "l".utf8ByteSize = 1 ∧ ".l.tmp".utf8ByteSize = 6 := by
    decide +kernel
  have htarget : parts "y/.." = ["y", ".."] := by decide +kernel
  have hy : checkPath ⟨"y"⟩ = .ok ["y"] := checkPath_eq_ok_iff.2 (by decide +kernel)
  have hup : checkPath ⟨"y/.."⟩ = .ok ["y", ".."] := checkPath_eq_ok_iff.2 (by decide +kernel)
  have hdir : checkPath ⟨"y/../l"⟩ = .ok ["y", "..", "l"] :=
    checkPath_eq_ok_iff.2 (by decide +kernel)
  have hfile : checkPath ⟨"y/../l/l"⟩ = .ok ["y", "..", "l", "l"] :=
    checkPath_eq_ok_iff.2 (by decide +kernel)
  have htmp : checkPath ⟨"y/../l/.l.tmp"⟩ = .ok ["y", "..", "l", ".l.tmp"] :=
    checkPath_eq_ok_iff.2 (by decide +kernel)
  have hparent : FilePath.parent? ⟨"y/../l/l"⟩ = some ⟨"y/../l"⟩ := by decide +kernel
  have htemporary : temporary ⟨"y/../l/l"⟩ = some ⟨"y/../l/.l.tmp"⟩ := by decide +kernel
  have hparents : makeParents ⟨"y/../l/l"⟩ throughItself =
      .ok () { entries := [(["l"], .link "y/.."), (["y"], .directory 0o755)] } := by
    have hleading : FilePath.leading ⟨"y/../l"⟩ = [⟨"y"⟩, ⟨"y/.."⟩, ⟨"y/../l"⟩] := by
      decide +kernel
    simp [throughItself, hparent, hleading, hy, hup, hdir, hsizes, defaultMode]
  have hread : readFile ⟨"y/../l/l"⟩ throughItself = .ok none throughItself := by
    simp [readFile, readText, readBytes, openPath, throughItself, hfile, hsizes]
  have hopen : openPath
      { entries := [(["l"], .file (Text.toBytes "x") false), (["y"], .directory 0o755)] }
      ⟨"y/../l"⟩ = .ok ["l"] := by
    simp [openPath, hdir, hsizes]
  have hreplace : replaceFile ⟨"y/../l/l"⟩ (Text.toBytes "x") none
      { entries := [(["l"], .link "y/.."), (["y"], .directory 0o755)] } =
        .ok ()
          { entries := [(["l"], .file (Text.toBytes "x") false), (["y"], .directory 0o755)] } := by
    simp [replaceFile, holder?, within, EStateM.adaptExcept, discard, Functor.discard,
      Functor.mapConst, EStateM.map, ask, htemporary, hparent, htmp, hfile, htarget, hsizes, hopen]
  have hprepared : throughItself.prepared ⟨"y/../l/l"⟩ =
      { entries := [(["l"], .link "y/.."), (["y"], .directory 0o755)] } := by
    rw [prepared, after, hparents]
  refine ⟨fun tmp h ↦ ?_, fun hconverged ↦ ?_⟩
  · obtain rfl := Option.some.inj (htemporary.symm.trans h)
    rw [hprepared]
    simp [readLink?, htmp, htarget, hsizes, Except.toOption]
  · have hconverge : converge ⟨"y/../l/l"⟩ "x" throughItself = .ok true
        { entries := [(["l"], .file (Text.toBytes "x") false), (["y"], .directory 0o755)] } := by
      rw [converge_of_ne hread (by decide), writeFile_eq]
      exact bind_of_ok ((bind_of_ok hparents).trans hreplace)
    rw [hconverge] at hconverged
    have hreads := hconverged.reads
    simp [readText, readBytes, openPath, hfile, hsizes] at hreads

end

end NetReconcile.FileTree
