import NetReconcile.Proofs.FileTree.Converge

/-!
# Making a path a link

What is at the path is removed first, and the link is made afterwards. The path is walked anew for
the second call, and between the two the tree lacks the entry that was removed. A file and a missing
entry are on no way, so the second call comes to the same directory and finds the name free there;
then nothing is left that it could fail for. Only a link can have been on the way to its own
directory, and once it is removed the path leads nowhere.

## Main definitions

* `FileTree.IsLinkText`: a path that a link can hold.
* `FileTree.Linked`: what making a link comes to if it succeeds.
* `FileTree.Relinked`: what it comes to in any case.

## Main statements

* `FileTree.linked_of_makeLink`: a link that is made on the tree without the entry is found there.
* `FileTree.relinked_replaceLink`: making a path a link is made as a whole or not at all, and making
  it again changes nothing. It loses the old link only where the way to it led through itself.

## Where the two calls come apart

The calls are one only if the second walk comes to where the first one came. What has changed in
between is the entry that was removed. `slot_erase_of_isDirect` says that this makes no difference
to a way that does not lead through that entry; `slot_of_erase` says that no other directory can be
reached in its place. So there are two cases. In the direct one both calls see the same directory
(`relinked_of_isDirect`). In the other one the entry was a link on the way to its own directory, and
the second walk ends at the gap that it has left (`relinked_of_not_isDirect`).
-/

namespace NetReconcile.FileTree

variable {t t' t₁ : FileTree} {p link target : FilePath} {dir loc : Location} {name : String}

/-! ### What is asked for, and what it comes to -/

/-- A path that a link can hold. -/
def IsLinkText (target : FilePath) : Prop :=
  target.text ≠ "" ∧ '\x00' ∉ target.text.toList ∧ target.text.utf8ByteSize ≤ pathLimit

instance (target : FilePath) : Decidable (IsLinkText target) :=
  inferInstanceAs (Decidable (_ ∧ _ ∧ _))

/-- A path of a tree was made a link, or was one already. -/
structure Linked (t t' : FileTree) (target link : FilePath) : Prop where
  holds : ∃ held, t'.readLink? link = some held ∧ held.same target = true
  /-- What was at the path is gone, unless it is a link that holds the target. -/
  gone : ∀ loc node, t.LeadsTo link loc → t.get? loc = some node → t'.get? loc = some node →
    ∃ text, node = .link text ∧ (FilePath.mk text).same target = true
  /-- All that is not at the path is as it was. -/
  kept : t'.workDir = t.workDir ∧ ∀ loc, ¬t'.LeadsTo link loc → t'.get? loc = t.get? loc
  again : replaceLink target link t' = .ok () t'

/-- What making a path a link comes to. If it fails, nothing was changed, unless the way to the path
led through the link that was there. -/
def Relinked (t : FileTree) (target link : FilePath) :
    EStateM.Result HostError FileTree Unit → Prop
  | .ok () t' => t.Linked t' target link
  | .error _ t' =>
    (t.IsDirect link → t' = t) ∧
      (¬t.IsDirect link →
        ∃ dir name, t.slot link = .ok (.entry dir name false) ∧ t' = t.erase (name :: dir))

/-! ### Single calls -/

/-- Removing takes away the entry itself, so a link and not what it leads to. Directories are not
removed. -/
theorem removeEntry_eq (p : FilePath) (t : FileTree) :
    removeEntry p t = match t.slot p with
      | .error e => .error e t
      | .ok .special => .error (.system .isDirectory) t
      | .ok (.entry dir name slash) =>
        match t.get? (name :: dir) with
        | none => .error (.system .noEntry) t
        | some (.directory _) => .error (.system .isDirectory) t
        | some _ =>
          if slash then .error (.system .notDirectory) t else .ok () (t.erase (name :: dir)) := by
  unfold removeEntry
  cases hslot : t.slot p with
  | error e => exact bind_of_error (ask_of_error hslot)
  | ok slot =>
    refine (bind_of_ok (ask_of_ok hslot)).trans ?_
    cases slot with
    | special => rfl
    | entry dir name slash =>
      refine (bind_of_ok (nodeAt_eq dir name t)).trans ?_
      dsimp only
      cases t.get? (name :: dir) with
      | none => rfl
      | some node =>
        cases node with
        | directory => rfl
        | file | link =>
          cases slash with
          | true | false => rfl

/-- Making a link adds one entry under a free name. Whether what it says leads anywhere is not
looked at. -/
theorem makeLink_eq (target p : FilePath) (t : FileTree) :
    makeLink target p t = match linkText target, t.slot p with
      | .error e, _ => .error (.system e) t
      | .ok _, .error e => .error e t
      | .ok _, .ok .special => .error (.system .entryExists) t
      | .ok text, .ok (.entry dir name slash) =>
        if (t.get? (name :: dir)).isSome then .error (.system .entryExists) t
        else if slash then .error (.system .noEntry) t
        else .ok () (t.set (name :: dir) (.link text)) := by
  unfold makeLink
  cases htext : linkText target with
  | error e => exact bind_of_error (ask_of_error rfl)
  | ok text =>
    have hask : ask (fun _ ↦ ofWalk (.ok text)) t = .ok text t := ask_of_ok rfl
    refine (bind_of_ok hask).trans ?_
    cases hslot : t.slot p with
    | error e => exact bind_of_error (ask_of_error hslot)
    | ok slot =>
      refine (bind_of_ok (ask_of_ok hslot)).trans ?_
      cases slot with
      | special => rfl
      | entry dir name slash =>
        refine (bind_of_ok (nodeAt_eq dir name t)).trans ?_
        dsimp only
        split
        · rfl
        · cases slash with
          | true | false => rfl

theorem linkText_eq (h : IsLinkText target) : linkText target = .ok target.text := by
  obtain ⟨hne, hnul, hsize⟩ := h
  rw [linkText, if_neg hnul, if_neg hne, if_neg (Nat.not_lt.2 hsize)]

/-- A link that was made stands in the directory that the walk came to, under a name that was free.
A path with slashes at its end has no such name. -/
theorem makeLink_eq_ok (htext : IsLinkText target) (h : makeLink target p t = .ok () t') :
    ∃ dir name, t.slot p = .ok (.entry dir name false) ∧ t.get? (name :: dir) = none ∧
      t' = t.set (name :: dir) (.link target.text) := by
  rw [makeLink_eq, linkText_eq htext] at h
  cases hslot : t.slot p with
  | error e =>
    rw [hslot] at h
    cases h
  | ok slot =>
    rw [hslot] at h
    cases slot with
    | special => cases h
    | entry dir name slash =>
      dsimp only at h
      split at h
      · cases h
      · rename_i hfree
        cases slash with
        | true => cases h
        | false =>
          cases h
          exact ⟨dir, name, rfl, Option.not_isSome_iff_eq_none.1 hfree, rfl⟩

/-- Where the name is free, nothing is left that making a link could fail for. -/
theorem makeLink_of_free (htext : IsLinkText target)
    (hslot : t.slot p = .ok (.entry dir name false)) (hfree : t.get? (name :: dir) = none) :
    makeLink target p t = .ok () (t.set (name :: dir) (.link target.text)) := by
  rw [makeLink_eq, linkText_eq htext, hslot]
  dsimp only
  rw [hfree]
  rfl

/-- A link that cannot be made leaves no trace. -/
theorem makeLink_eq_error {e : HostError} (h : makeLink target p t = .error e t') : t' = t := by
  rw [makeLink_eq] at h
  split at h
  · cases h
    rfl
  · cases h
    rfl
  · cases h
    rfl
  · split at h
    · cases h
      rfl
    · split at h
      · cases h
        rfl
      · cases h

/-- Removing what is at a path fails, finds nothing there, or takes away a file or a link. -/
theorem removePresent_eq_or (p : FilePath) (t : FileTree) :
    (∃ e, removePresent p t = .error e t) ∨ removePresent p t = .ok () t ∨
      ∃ dir name node, t.slot p = .ok (.entry dir name false) ∧
        t.get? (name :: dir) = some node ∧ (∀ mode, node ≠ .directory mode) ∧
        removePresent p t = .ok () (t.erase (name :: dir)) := by
  -- of all failures, that there is no entry is the one that is taken for success
  have hfailed : ∀ e, removeEntry p t = .error e t →
      (∃ e', removePresent p t = .error e' t) ∨ removePresent p t = .ok () t := by
    intro e h
    unfold removePresent
    rw [h]
    cases e with
    | system errno =>
      cases errno with
      | noEntry => exact .inr rfl
      | _ => exact .inl ⟨_, rfl⟩
    | _ => exact .inl ⟨_, rfl⟩
  have hremove := removeEntry_eq p t
  cases hslot : t.slot p with
  | error e =>
    rw [hslot] at hremove
    exact (hfailed _ hremove).imp_right .inl
  | ok slot =>
    rw [hslot] at hremove
    cases slot with
    | special => exact (hfailed _ hremove).imp_right .inl
    | entry dir name slash =>
      dsimp only at hremove
      cases hget : t.get? (name :: dir) with
      | none =>
        rw [hget] at hremove
        exact (hfailed _ hremove).imp_right .inl
      | some node =>
        rw [hget] at hremove
        cases node with
        | directory mode => exact (hfailed _ hremove).imp_right .inl
        | file | link =>
          cases slash with
          | true => exact (hfailed _ hremove).imp_right .inl
          | false =>
            refine .inr (.inr ⟨dir, name, _, rfl, hget, by simp, ?_⟩)
            rw [removePresent, hremove]
            rfl

/-! ### The link that was made -/

/-- A path leads to at most one entry, where its way and its last part lead. -/
theorem LeadsTo.eq_of_slot (hloc : t.LeadsTo p loc)
    (hslot : t.slot p = .ok (.entry dir name false)) :
    loc = name :: dir ∧ t.get? (name :: dir) ≠ none := by
  have hname := (exists_way_of_slot hslot).1
  obtain ⟨before, m, hcheck, hway⟩ := exists_way_of_slot_false hslot
  rw [LeadsTo, locate_eq hcheck hname.isIdle_eq, hway, ofWalk_eq_ok_iff] at hloc
  change t.walk .entry m dir [name] = _ at hloc
  rw [walk_singleton hname] at hloc
  cases hget : t.get? (name :: dir) with
  | none =>
    rw [hget] at hloc
    cases hloc
  | some node =>
    rw [hget] at hloc
    cases node with
    | directory | file | link =>
      cases hloc
      exact ⟨rfl, by simp⟩

/-- The way of a path to its directory is also the way to the entry, whatever that is: nothing is
followed at the end. -/
theorem leadsTo_of_slot {node : Node} (hslot : t.slot p = .ok (.entry dir name false))
    (hget : t.get? (name :: dir) = some node) : t.LeadsTo p (name :: dir) := by
  have hname := (exists_way_of_slot hslot).1
  obtain ⟨before, m, hcheck, hway⟩ := exists_way_of_slot_false hslot
  exact leadsTo_of_way hcheck hname hway hget

/-- What a link says is read off the entry to which its path leads. -/
theorem readLink?_eq_of_leadsTo (hloc : t.LeadsTo p loc) :
    t.readLink? p = match t.get? loc with
      | some (.link text) => some ⟨text⟩
      | _ => none := by
  rw [readLink?, hloc]
  rfl

/-- A path is about the same entry on a tree with more directories and links. -/
theorem slot_of_hasWays (hways : HasWays t t') (hdir : t'.workDir = t.workDir)
    (hslot : t.slot p = .ok (.entry dir name false)) : t'.slot p = .ok (.entry dir name false) := by
  obtain ⟨before, m, hcheck, hway⟩ := exists_way_of_slot_false hslot
  exact slot_of_way hcheck (exists_way_of_slot hslot).1 (way_of_hasWays hways hdir hway)

/-- A link that says the same already is left alone, and no call but the reading is made. -/
theorem replaceLink_of_holds {held : FilePath} (hheld : t.readLink? link = some held)
    (hsame : held.same target = true) : replaceLink target link t = .ok () t := by
  refine (bind_of_ok (get_eq t)).trans ?_
  rw [hheld, Option.any_some, if_pos hsame]
  rfl

/-- A link that is made on the tree without the entry of its path is found there. -/
theorem linked_of_makeLink (hdir : t₁.workDir = t.workDir) (hways : HasWays t₁ t)
    (hslot : t₁.slot link = .ok (.entry dir name false)) (hfree : t₁.get? (name :: dir) = none)
    (hkept : ∀ l, l ≠ name :: dir → t₁.get? l = t.get? l) :
    t.Linked (t₁.set (name :: dir) (.link target.text)) target link := by
  have hself := get?_set_self t₁ (.link target.text) (List.cons_ne_nil name dir)
  have hways' : HasWays t₁ (t₁.set (name :: dir) (.link target.text)) := by
    intro l node h _
    rw [get?_set_of_ne, h]
    rintro rfl
    rw [hfree] at h
    cases h
  have hloc := leadsTo_of_slot (slot_of_hasWays hways' rfl hslot) hself
  have hholds : (t₁.set (name :: dir) (.link target.text)).readLink? link = some target := by
    rw [readLink?_eq_of_leadsTo hloc, hself]
  refine ⟨⟨target, hholds, FilePath.same_refl target⟩, fun l node hl _ h ↦ ?_,
    ⟨hdir, fun l hl ↦ ?_⟩, replaceLink_of_holds hholds (FilePath.same_refl target)⟩
  · obtain ⟨rfl, -⟩ := hl.eq_of_slot (slot_of_hasWays hways hdir.symm hslot)
    rw [hself] at h
    exact ⟨target.text, (Option.some.inj h).symm, FilePath.same_refl target⟩
  · have hne : l ≠ name :: dir := by
      rintro rfl
      exact hl hloc
    rw [get?_set_of_ne _ _ hne, hkept l hne]

/-- Without its entry, a path is about the same entry if it is about one at all. -/
theorem slot_of_erase {dir' : Location} {name' : String}
    (hslot : t.slot p = .ok (.entry dir name false))
    (hslot' : (t.erase (name :: dir)).slot p = .ok (.entry dir' name' false)) :
    dir' = dir ∧ name' = name := by
  have hways := hasWays_erase t _ (List.cons_ne_nil name dir)
  have hback := slot_of_hasWays hways rfl hslot'
  rw [hslot] at hback
  cases hback
  exact ⟨rfl, rfl⟩

/-- A path whose way does not lead through its own link is about the same entry without it. -/
theorem slot_erase_of_isDirect {node : Node} (hdirect : t.IsDirect p)
    (hslot : t.slot p = .ok (.entry dir name false)) (hget : t.get? (name :: dir) = some node)
    (hnode : ∀ mode, node ≠ .directory mode) :
    (t.erase (name :: dir)).slot p = .ok (.entry dir name false) := by
  have hname := (exists_way_of_slot hslot).1
  obtain ⟨before, m, hcheck, hway⟩ := exists_way_of_slot_false hslot
  refine slot_of_way hcheck hname (way_erase_of_isDirect hdirect hcheck hname hway ?_)
  intro mode h
  rw [hget] at h
  exact hnode mode (Option.some.inj h)

/-! ### Making a path a link -/

/-- Making a link anew, unless one that holds the target is there. -/
theorem replaceLink_of_not_holds (h : ¬(t.readLink? link).any (·.same target) = true) :
    replaceLink target link t =
      (removePresent link >>= fun _ ↦
        within (.linkPaths target link) (makeLink target link)) t := by
  refine (bind_of_ok (get_eq t)).trans ?_
  rw [if_neg h]

/-- A link is removed wherever its path leads to it. -/
theorem removePresent_of_link {text : String} (hslot : t.slot p = .ok (.entry dir name false))
    (hget : t.get? (name :: dir) = some (.link text)) :
    removePresent p t = .ok () (t.erase (name :: dir)) := by
  have hremove := removeEntry_eq p t
  rw [hslot] at hremove
  dsimp only at hremove
  rw [hget] at hremove
  rw [removePresent, hremove]
  rfl

/-- Where a link that holds the target is there, nothing has to be done. -/
theorem linked_of_holds {held : FilePath} (hheld : t.readLink? link = some held)
    (hsame : held.same target = true) : t.Linked t target link := by
  refine ⟨⟨held, hheld, hsame⟩, fun loc node hloc hget _ ↦ ?_, ⟨rfl, fun _ _ ↦ rfl⟩,
    replaceLink_of_holds hheld hsame⟩
  rw [readLink?_eq_of_leadsTo hloc, hget] at hheld
  cases node with
  | link text =>
    cases hheld
    exact ⟨text, rfl, hsame⟩
  | directory | file => cases hheld

/-- Where the way to a path does not lead through its own link, the path is a link in the end or the
tree is as it was. -/
theorem relinked_of_isDirect (htext : IsLinkText target) (hdirect : t.IsDirect link)
    (hholds : ¬(t.readLink? link).any (·.same target) = true) :
    t.Relinked target link (replaceLink target link t) := by
  rw [replaceLink_of_not_holds hholds]
  rcases removePresent_eq_or link t with ⟨e, hremove⟩ | hremove |
    ⟨dir, name, node, hslot, hget, hnode, hremove⟩
  · rw [bind_of_error hremove]
    exact ⟨fun _ ↦ rfl, fun h ↦ absurd hdirect h⟩
  · rw [bind_of_ok hremove]
    cases hmake : makeLink target link t with
    | error e t' =>
      rw [within_of_error hmake]
      exact ⟨fun _ ↦ makeLink_eq_error hmake, fun h ↦ absurd hdirect h⟩
    | ok u t' =>
      obtain ⟨dir, name, hslot, hfree, rfl⟩ := makeLink_eq_ok htext hmake
      rw [within_of_ok hmake]
      exact linked_of_makeLink rfl (fun _ _ h _ ↦ h) hslot hfree fun _ _ ↦ rfl
  · -- the path is about the same entry once that is removed
    have hslot' := slot_erase_of_isDirect hdirect hslot hget hnode
    have hne : name :: dir ≠ [] := List.cons_ne_nil name dir
    have hfree := get?_erase_self t hne
    rw [bind_of_ok hremove, within_of_ok (makeLink_of_free htext hslot' hfree)]
    exact linked_of_makeLink rfl (hasWays_erase t _ hne) hslot' hfree fun l hl ↦
      get?_erase_of_ne t hl

/-- Where the way to a path leads through its own link, that link is lost. -/
theorem relinked_of_not_isDirect (htext : IsLinkText target) (hdirect : ¬t.IsDirect link)
    (hholds : ¬(t.readLink? link).any (·.same target) = true) :
    t.Relinked target link (replaceLink target link t) := by
  obtain ⟨dir, name, text, hslot, hget, hslot'⟩ : ∃ dir name text,
      t.slot link = .ok (.entry dir name false) ∧ t.get? (name :: dir) = some (.link text) ∧
        (t.erase (name :: dir)).slot link ≠ .ok (.entry dir name false) := by
    simpa [IsDirect] using hdirect
  rw [replaceLink_of_not_holds hholds, bind_of_ok (removePresent_of_link hslot hget)]
  cases hmake : makeLink target link (t.erase (name :: dir)) with
  | ok u t' =>
    obtain ⟨dir', name', hfound, -, -⟩ := makeLink_eq_ok htext hmake
    obtain ⟨rfl, rfl⟩ := slot_of_erase hslot hfound
    exact absurd hfound hslot'
  | error e t' =>
    rw [within_of_error hmake]
    exact ⟨fun h ↦ absurd h hdirect, fun _ ↦ ⟨dir, name, hslot, makeLink_eq_error hmake⟩⟩

/-- Making a path a link is made as a whole or not at all, and it can be made again. Only a link to
which the way led through itself is lost where it fails. -/
theorem relinked_replaceLink (t : FileTree) (link : FilePath) (htext : IsLinkText target) :
    t.Relinked target link (replaceLink target link t) := by
  by_cases hholds : (t.readLink? link).any (·.same target) = true
  · obtain ⟨held, hheld, hsame⟩ := (Option.any_eq_true _ _).1 hholds
    rw [replaceLink_of_holds hheld hsame]
    exact linked_of_holds hheld hsame
  · by_cases hdirect : t.IsDirect link
    · exact relinked_of_isDirect htext hdirect hholds
    · exact relinked_of_not_isDirect htext hdirect hholds

/-! ### Two trees -/

section

-- what it takes to walk a path on a tree that is written out
attribute [local simp] locate slot splitLast walkDirectory walk isIdle isSlashes get? find? origin
  FilePath.isAbsolute linkLimit nameLimit ofWalk bind Except.bind pure Except.pure

/-- A link that leads nowhere is replaced. -/
theorem relinked_cutShort :
    IsLinkText ⟨"/etc/d.conf"⟩ ∧
      cutShort.Relinked ⟨"/etc/d.conf"⟩ ⟨"b/c"⟩ (replaceLink ⟨"/etc/d.conf"⟩ ⟨"b/c"⟩ cutShort) := by
  have htext : IsLinkText ⟨"/etc/d.conf"⟩ := by decide +kernel
  exact ⟨htext, relinked_replaceLink cutShort ⟨"b/c"⟩ htext⟩

/-- A link to the directory that it is in. -/
def toItself : FileTree where
  entries := [(["l"], .link ".")]

/-- The link is removed by way of itself, and then the path leads nowhere. -/
theorem replaceLink_toItself :
    IsLinkText ⟨"t"⟩ ∧
      ∃ e t', replaceLink ⟨"t"⟩ ⟨"l/l"⟩ toItself = .error e t' ∧ t' ≠ toItself := by
  have htext : IsLinkText ⟨"t"⟩ := by decide +kernel
  have hsize : "l".utf8ByteSize = 1 := by decide +kernel
  have hhere : parts "." = ["."] := by decide +kernel
  have hpath : checkPath ⟨"l/l"⟩ = .ok ["l", "l"] := checkPath_eq_ok_iff.2 (by decide +kernel)
  have hother : (FilePath.mk ".").same ⟨"t"⟩ = false := by decide +kernel
  have hget : toItself.get? ["l"] = some (.link ".") := rfl
  have hslot : toItself.slot ⟨"l/l"⟩ = .ok (.entry [] "l" false) := by
    simp [toItself, hpath, hsize, hhere]
  have hslot' : (toItself.erase ["l"]).slot ⟨"l/l"⟩ = .error (.system .noEntry) := by
    simp [toItself, erase, hpath, hsize]
  have hholds : ¬(toItself.readLink? ⟨"l/l"⟩).any (·.same ⟨"t"⟩) = true := by
    rw [readLink?_eq_of_leadsTo (leadsTo_of_slot hslot hget), hget]
    simp [hother]
  have hmake : makeLink ⟨"t"⟩ ⟨"l/l"⟩ (toItself.erase ["l"]) =
      .error (.system .noEntry) (toItself.erase ["l"]) := by
    rw [makeLink_eq, linkText_eq htext, hslot']
  refine ⟨htext, .during (.linkPaths ⟨"t"⟩ ⟨"l/l"⟩) (.system .noEntry), toItself.erase ["l"], ?_,
    by decide⟩
  rw [replaceLink_of_not_holds hholds, bind_of_ok (removePresent_of_link hslot hget)]
  exact within_of_error hmake

end

end NetReconcile.FileTree
