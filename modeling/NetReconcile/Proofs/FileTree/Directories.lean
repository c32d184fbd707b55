import NetReconcile.Proofs.FileTree.Converge
import NetReconcile.Proofs.Leading

/-!
# Making the directories that lead to a path

The starts of a path are made one after the other, each in the directory that the one before it
leads to. A start that is there already is left alone, whatever it is, so success alone does not say
that there is a directory now. It does if every start that is there when the work begins leads to a
directory: what is made on the way is empty, so nothing that was out of reach before comes in the
way of a later start.

This holds of trees as file systems have them, where every entry stands in a directory.

## Main definitions

* `FileTree.IsTree`: entries stand in directories, and relative paths start at one.
* `FileTree.Descends`: paths each of which says one part more than the one before it.
* `FileTree.IsAccepted`: calls accept the names of a path.
* `FileTree.GoesDown`: a path that can be made where another one is made.

## Main statements

* `FileTree.exists_makeMissing`: what making one more start comes to.
* `FileTree.exists_makeAll`: what making all of them comes to.
* `FileTree.made_makeDirectories`: the starts of a path, and that they are directories in the end.
-/

namespace NetReconcile.FileTree

variable {t t' : FileTree} {p q : FilePath} {loc dir : Location} {name part : String}
  {ps more : List String} {qs : List FilePath} {links m : Nat}

/-! ### Trees -/

/-- A directory is at a location. -/
def IsDirectory (t : FileTree) (loc : Location) : Prop :=
  ∃ mode, t.get? loc = some (.directory mode)

/-- A tree as file systems have it: every entry stands in a directory, and relative paths start at
one. -/
structure IsTree (t : FileTree) : Prop where
  stands : ∀ name dir node, t.get? (name :: dir) = some node → t.IsDirectory dir
  starts : t.IsDirectory t.workDir

/-- A directory has no entries. -/
def IsBare (t : FileTree) (dir : Location) : Prop :=
  ∀ name, t.get? (name :: dir) = none

/-- The root is a directory on every tree. -/
theorem isDirectory_root (t : FileTree) : t.IsDirectory [] :=
  ⟨defaultMode, t.get?_root⟩

/-- Every walk begins at a directory. -/
theorem IsTree.isDirectory_origin (ht : t.IsTree) (text : String) :
    t.IsDirectory (origin t.workDir text) := by
  unfold origin
  split
  · exact t.isDirectory_root
  · exact ht.starts

/-- It is enough to look at the entries that are listed. So trees that are written out can be
checked by evaluation. -/
theorem isTree_of_entries (h : ∀ e ∈ t.entries, t.IsDirectory e.1.tail)
    (hstart : t.IsDirectory t.workDir) : t.IsTree := by
  refine ⟨fun name dir node hget ↦ ?_, hstart⟩
  rw [get?, if_neg (List.cons_ne_nil name dir), find?, Option.map_eq_some_iff] at hget
  obtain ⟨e, he, -⟩ := hget
  have hloc : e.1 = name :: dir := by simpa using List.find?_some he
  have hdir := h e (List.mem_of_find?_eq_some he)
  rwa [hloc] at hdir

/-- A directory that was made is a directory, and the others stay. -/
theorem isDirectory_set_directory (mode : Nat) (h : t.IsDirectory dir ∨ dir = name :: loc) :
    (t.set (name :: loc) (.directory mode)).IsDirectory dir := by
  by_cases hdir : dir = name :: loc
  · rw [hdir]
    exact ⟨mode, get?_set_self t _ (List.cons_ne_nil name loc)⟩
  · obtain ⟨mode', hget⟩ := h.resolve_right hdir
    exact ⟨mode', (get?_set_of_ne t _ hdir).trans hget⟩

/-- A directory that is made in a directory keeps the tree one. -/
theorem IsTree.set_directory (ht : t.IsTree) (hdir : t.IsDirectory dir) (mode : Nat) :
    (t.set (name :: dir) (.directory mode)).IsTree := by
  refine ⟨fun name' dir' node hget ↦ isDirectory_set_directory mode (.inl ?_),
    isDirectory_set_directory mode (.inl ht.starts)⟩
  by_cases hloc : name' :: dir' = name :: dir
  · obtain ⟨-, rfl⟩ := List.cons.inj hloc
    exact hdir
  · rw [get?_set_of_ne t _ hloc] at hget
    exact ht.stands name' dir' node hget

/-- A directory that was made has no entries. -/
theorem IsTree.isBare_set_directory (ht : t.IsTree) (hnone : t.get? loc = none) (mode : Nat) :
    (t.set loc (.directory mode)).IsBare loc := by
  intro name
  rw [get?_set_of_ne t _ (List.cons_ne_self name loc)]
  cases hget : t.get? (name :: loc) with
  | none => rfl
  | some node =>
    obtain ⟨mode', hmode⟩ := ht.stands name loc node hget
    rw [hnone] at hmode
    cases hmode

/-! ### Directories at the end of a path -/

/-- A walk that ends at a directory is a way. -/
theorem exists_follow_of_walk (h : t.walk .node links dir ps = .ok (.existing loc))
    (hloc : t.IsDirectory loc) : ∃ m, t.follow links dir ps = .ok (loc, m) := by
  generalize hgoal : Goal.node = goal at h
  fun_induction walk t goal links dir ps with
  | case1 links dir =>
    cases h
    exact ⟨links, follow_nil t links _⟩
  | case2 links dir part rest hidle ih =>
    rw [follow_of_isIdle hidle]
    exact ih h
  | case3 links dir rest hidle ih =>
    rw [follow, if_neg hidle, if_pos rfl]
    exact ih h
  | case4 | case5 | case6 | case7 | case10 | case12 => cases h
  | case8 links dir part rest hidle hup hslash hlong mode hget ih =>
    rw [follow_of_isEntryName (isEntryName_of hidle hup hlong), hget]
    exact ih h
  | case9 links dir part hidle hup hlong bytes isExecutable hget hslash =>
    -- a file is no directory
    cases h
    obtain ⟨mode, hmode⟩ := hloc
    rw [hget] at hmode
    cases hmode
  | case11 links dir part rest hidle hup hslash hlong target hget hend =>
    simp [← hgoal] at hend
  | case13 dir part rest hidle hup hslash hlong target hget hend links ih =>
    rw [follow_of_isEntryName (isEntryName_of hidle hup hlong), hget]
    exact ih h

/-- A path leads to a directory if its way does. -/
theorem isSome_mode?_iff (hcheck : checkPath q = .ok ps) :
    (t.mode? q).isSome = true ↔ ∃ r, t.way q ps = .ok r ∧ t.IsDirectory r.1 := by
  have hmode : (t.mode? q).isSome = true ↔ ∃ loc, t.openPath q = .ok loc ∧ t.IsDirectory loc := by
    unfold mode? IsDirectory
    cases hopen : t.openPath q with
    | error e => simp [Except.toOption]
    | ok loc =>
      simp only [Except.toOption, Option.bind_eq_bind, Option.bind_some, Except.ok.injEq,
        exists_eq_left']
      cases t.get? loc with
      | none => simp
      | some node =>
        cases node with
        | directory | file | link => simp
  rw [hmode]
  constructor
  · rintro ⟨loc, hopen, hloc⟩
    have hwalk : t.walk .node linkLimit (origin t.workDir q.text) ps = .ok (.existing loc) := by
      unfold openPath at hopen
      obtain ⟨place, hplace, hopen⟩ := bind_eq_ok_iff.1 hopen
      rw [locate, hcheck] at hplace
      cases place with
      | existing loc' =>
        cases hopen
        exact ofWalk_eq_ok_iff.1 hplace
      | absent dir name => cases hopen
    obtain ⟨m, hway⟩ := exists_follow_of_walk hwalk hloc
    exact ⟨(loc, m), hway, hloc⟩
  · rintro ⟨⟨loc, m⟩, hway, hloc⟩
    obtain rfl := eq_parts_of_checkPath hcheck
    exact ⟨loc, openPath_of_way hcheck hway, hloc⟩

/-- Where a tree has grown, paths to directories still lead to directories. -/
theorem Grown.isSome_mode? (h : Grown qs t t') (hcheck : checkPath q = .ok ps)
    (hmode : (t.mode? q).isSome = true) : (t'.mode? q).isSome = true := by
  obtain ⟨r, hway, mode, hget⟩ := (isSome_mode?_iff hcheck).1 hmode
  exact (isSome_mode?_iff hcheck).2
    ⟨r, way_of_hasWays h.hasWays h.workDir_eq hway, mode, h.get?_eq _ _ hget⟩

/-- From a directory without entries, only parts that lead nowhere lead anywhere. -/
theorem follow_of_walk_of_isBare {goal : Goal} (hbare : t.IsBare dir) (hup : ".." ∉ ps)
    (h : t.walk goal links dir ps = .ok (.existing loc)) :
    t.follow links dir ps = .ok (dir, links) := by
  induction ps with
  | nil => exact follow_nil t links dir
  | cons part rest ih =>
    obtain ⟨hpart, hrest⟩ := not_or.1 (List.mem_cons.not.1 hup)
    by_cases hidle : isIdle part = true
    · rw [walk_of_isIdle hidle] at h
      rw [follow_of_isIdle hidle]
      exact ih hrest h
    · rw [walk, if_neg hidle, if_neg (Ne.symm hpart), hbare part] at h
      dsimp only at h
      split at h
      · cases h
      · split at h
        · cases h
        · split at h
          · cases h
          · cases h

/-- Paths that begin alike have the same ways. -/
theorem way_congr (h : p.isAbsolute = q.isAbsolute) (ps : List String) :
    t.way p ps = t.way q ps := by
  rw [way, way, origin_congr h]

/-! ### One more directory -/

/-- The entry that a path is about is there if the path says a way. -/
theorem exists_slot_of_way {r : Location × Nat} (hcheck : checkPath q = .ok ps)
    (hway : t.way q ps = .ok r) :
    ∃ slot, t.slot q = .ok slot ∧
      ∀ dir name slash, slot = .entry dir name slash → t.get? (name :: dir) ≠ none := by
  rw [slot_eq hcheck]
  cases hsplit : splitLast ps.reverse false with
  | none => exact ⟨.special, rfl, nofun⟩
  | some split =>
    obtain ⟨before, last, slash⟩ := split
    obtain ⟨hne, k, hps, -⟩ := splitLast_eq_some hsplit
    obtain rfl : ps = before ++ last :: List.replicate k "" := by
      rw [← List.reverse_reverse ps, hps]
      simp
    rw [way_append] at hway
    obtain ⟨⟨dir, m⟩, hbefore, hlast⟩ := bind_eq_ok_iff.1 hway
    dsimp only
    rw [hbefore]
    dsimp only
    by_cases hdots : last = "." ∨ last = ".."
    · rw [if_pos (by simpa using hdots)]
      exact ⟨.special, rfl, nofun⟩
    · rw [if_neg (by simpa using hdots)]
      obtain ⟨hdot, hup⟩ := not_or.1 hdots
      rw [follow, if_neg (Bool.not_eq_true _ ▸ isIdle_eq_false_iff.2 ⟨hne, hdot⟩), if_neg hup]
        at hlast
      split at hlast
      · cases hlast
      · rename_i hlong
        refine ⟨.entry dir last slash, if_neg hlong, ?_⟩
        rintro _ _ _ ⟨⟩ hnone
        rw [hnone] at hlast
        cases hlast

/-- Where a path leads to a directory, nothing is made. -/
theorem makeMissing_of_way {r : Location × Nat} (mode : Nat) (hcheck : checkPath q = .ok ps)
    (hway : t.way q ps = .ok r) : makeMissing mode q t = .ok () t := by
  obtain ⟨slot, hslot, hentry⟩ := exists_slot_of_way hcheck hway
  have hexists : makeDirectory q mode t = .error (.system .entryExists) t := by
    rw [makeDirectory_eq, hslot]
    cases slot with
    | special => rfl
    | entry dir name slash =>
      exact if_pos (Option.isSome_iff_ne_none.2 (hentry dir name slash rfl))
  rw [makeMissing, hexists]

/-- Where a path is about an entry that is missing, a directory is made. -/
theorem makeMissing_of_free (mode : Nat) (hcheck : checkPath q = .ok (ps ++ [name]))
    (hname : IsEntryName name) (hway : t.way q ps = .ok (dir, m))
    (hnone : t.get? (name :: dir) = none) :
    makeMissing mode q t = .ok () (t.set (name :: dir) (.directory (mode % 0o10000))) := by
  have hmade : makeDirectory q mode t =
      .ok () (t.set (name :: dir) (.directory (mode % 0o10000))) := by
    rw [makeDirectory_eq, slot_of_way hcheck hname hway]
    dsimp only
    rw [hnone]
    rfl
  rw [makeMissing, hmade]

/-- The way of a path goes on to the directory that was made at its end. -/
theorem way_set_directory (mode : Nat) (hname : IsEntryName name)
    (hway : t.way q ps = .ok (dir, m)) (hnone : t.get? (name :: dir) = none) :
    (t.set (name :: dir) (.directory mode)).way q (ps ++ [name]) = .ok (name :: dir, m) := by
  have hways : HasWays t (t.set (name :: dir) (.directory mode)) := by
    intro l node hget _
    rw [get?_set_of_ne, hget]
    rintro rfl
    rw [hnone] at hget
    cases hget
  rw [way_append, way_of_hasWays hways rfl hway]
  show follow _ m dir [name] = _
  rw [follow_of_isEntryName hname, get?_set_self t _ (List.cons_ne_nil name dir)]
  exact follow_nil _ m (name :: dir)

/-- A path that says one part more than a way to a directory is made a directory, or is one. -/
theorem exists_makeMissing (mode : Nat) (ht : t.IsTree) (hcheck : checkPath q = .ok (ps ++ [part]))
    (hup : part ≠ "..") (hsize : part.utf8ByteSize ≤ nameLimit)
    (hway : t.way q ps = .ok (dir, m)) (hdir : t.IsDirectory dir)
    (hthere : ∀ loc, t.LeadsTo q loc → (t.mode? q).isSome = true) :
    ∃ t' r, makeMissing mode q t = .ok () t' ∧ t'.IsTree ∧ t'.way q (ps ++ [part]) = .ok r ∧
      t'.IsDirectory r.1 ∧ (t' = t ∨ t'.IsBare r.1) := by
  by_cases hdone : ∃ r, t.way q (ps ++ [part]) = .ok r ∧ t.IsDirectory r.1
  · obtain ⟨r, hr, hloc⟩ := hdone
    exact ⟨t, r, makeMissing_of_way mode hcheck hr, ht, hr, hloc, .inl rfl⟩
  · have hidle : ¬isIdle part = true := by
      intro hidle
      refine hdone ⟨(dir, m), ?_, hdir⟩
      rw [way_append, hway]
      show t.follow m dir [part] = _
      rw [follow_of_isIdle hidle, follow_nil]
    have hname := isEntryName_of hidle hup (Nat.not_lt.2 hsize)
    cases hget : t.get? (part :: dir) with
    | some node =>
      have hleads := leadsTo_of_way hcheck hname hway hget
      exact absurd ((isSome_mode?_iff hcheck).1 (hthere _ hleads)) hdone
    | none =>
      exact ⟨_, _, makeMissing_of_free mode hcheck hname hway hget, ht.set_directory hdir _,
        way_set_directory _ hname hway hget, isDirectory_set_directory _ (.inr rfl),
        .inr (ht.isBare_set_directory hget _)⟩

/-! ### All directories -/

/-- Each path says one part more than the one before it, and the first says one part more than the
given ones. -/
inductive Descends : List String → List FilePath → Prop
  | nil (ps : List String) : Descends ps []
  | cons {ps : List String} {part : String} {q : FilePath} {qs : List FilePath}
      (hparts : parts q.text = ps ++ [part]) (hrest : Descends (parts q.text) qs) :
      Descends ps (q :: qs)

/-- Each of the paths says the parts of the first one, and more. -/
theorem Descends.exists_parts_eq (h : Descends ps qs) :
    ∀ q ∈ qs, ∃ more, more ≠ [] ∧ parts q.text = ps ++ more := by
  induction h with
  | nil ps => exact fun q hq ↦ absurd hq List.not_mem_nil
  | @cons ps part q qs hparts hrest ih =>
    rintro q' hq'
    rcases List.mem_cons.1 hq' with rfl | hq'
    · exact ⟨[part], List.cons_ne_nil _ _, hparts⟩
    · obtain ⟨more, -, hmore⟩ := ih q' hq'
      exact ⟨part :: more, List.cons_ne_nil _ _, by rw [hmore, hparts]; simp⟩

/-- What is there below a directory without entries is that directory. -/
theorem isSome_mode?_of_isBare (hcheck : checkPath q = .ok (ps ++ more)) (hne : more ≠ [])
    (hup : ".." ∉ more) (hway : t.way q ps = .ok (dir, m)) (hdir : t.IsDirectory dir)
    (hbare : t.IsBare dir) (hleads : t.LeadsTo q loc) : (t.mode? q).isSome = true := by
  have hwalk : t.walk .entry linkLimit (origin t.workDir q.text) (ps ++ more) =
      .ok (.existing loc) := by
    rw [LeadsTo, locate, hcheck] at hleads
    exact ofWalk_eq_ok_iff.1 hleads
  have hstart : t.follow linkLimit (origin t.workDir q.text) ps = .ok (dir, m) := hway
  rw [walk_append t hne (by simp), hstart] at hwalk
  refine (isSome_mode?_iff hcheck).2 ⟨(dir, m), ?_, hdir⟩
  rw [way_append, hway]
  exact follow_of_walk_of_isBare hbare hup hwalk

/-- The kernel accepts the names of a path: there is no nul in them, and neither the path nor one of
its parts is too long. -/
structure IsAccepted (p : FilePath) : Prop where
  nul_notMem : '\x00' ∉ p.text.toList
  size_le : p.text.utf8ByteSize ≤ pathLimit
  part_size_le : ∀ part ∈ parts p.text, part.utf8ByteSize ≤ nameLimit

/-- A path with a start that is to be made passes the checks. -/
theorem IsAccepted.checkPath_eq (h : IsAccepted p) (hne : p.leading ≠ []) :
    checkPath p = .ok (parts p.text) := by
  refine checkPath_eq_ok_iff.2 ⟨h.nul_notMem, fun hempty ↦ hne ?_, h.size_le, rfl⟩
  simp [FilePath.leading, hempty, FilePath.startsFrom]

/-- A path starts where another one does, calls accept it, and no part of it leads back. -/
structure GoesDown (p q : FilePath) : Prop where
  isAbsolute_eq : q.isAbsolute = p.isAbsolute
  checkPath_eq : checkPath q = .ok (parts q.text)
  up_notMem : ".." ∉ parts q.text
  part_size_le : ∀ part ∈ parts q.text, part.utf8ByteSize ≤ nameLimit

/-- Every start of a path whose names are accepted can be made where the path leads. -/
theorem IsAccepted.goesDown (h : IsAccepted p) (hup : ".." ∉ parts p.text) (hq : q ∈ p.leading) :
    GoesDown p q := by
  obtain ⟨-, habsolute, ⟨rest, hparts⟩, hcheck⟩ := exists_parts_of_mem_leading hq
  have hmem (part : String) (hpart : part ∈ parts q.text) : part ∈ parts p.text :=
    hparts ▸ List.mem_append_left rest hpart
  exact ⟨habsolute, hcheck _ (h.checkPath_eq (List.ne_nil_of_mem hq)),
    fun hback ↦ hup (hmem _ hback), fun part hpart ↦ h.part_size_le part (hmem part hpart)⟩

/-- Making directories with success only adds to a tree. -/
theorem grown_of_makeAll_eq_ok {mode : Nat} (h : makeAll mode qs t = .ok () t') :
    Grown qs t t' := by
  have hgrown := grown_makeAll mode qs t
  rwa [after, h] at hgrown

/-- Paths that descend from a directory are made directories, if what is there of them leads to
directories. -/
theorem exists_makeAll (mode : Nat) (hd : Descends ps qs) (ht : t.IsTree)
    (hway : t.way p ps = .ok (dir, m)) (hdir : t.IsDirectory dir)
    (hqs : ∀ q ∈ qs, GoesDown p q)
    (hthere : ∀ q ∈ qs, ∀ loc, t.LeadsTo q loc → (t.mode? q).isSome = true) :
    ∃ t', makeAll mode qs t = .ok () t' ∧ t'.IsTree ∧ ∀ q ∈ qs, (t'.mode? q).isSome = true := by
  induction hd generalizing t dir m with
  | nil ps => exact ⟨t, rfl, ht, fun q hq ↦ absurd hq List.not_mem_nil⟩
  | @cons ps part q qs hparts hrest ih =>
    have hq := hqs q List.mem_cons_self
    have hpart : part ∈ parts q.text := hparts ▸ List.mem_append_right ps List.mem_cons_self
    have hway' : t.way q ps = .ok (dir, m) := (way_congr hq.isAbsolute_eq ps).trans hway
    obtain ⟨t₁, r, hmake, ht₁, hway₁, hdir₁, hkept⟩ := exists_makeMissing mode ht
      (hparts ▸ hq.checkPath_eq) (fun h ↦ hq.up_notMem (h ▸ hpart)) (hq.part_size_le part hpart)
      hway' hdir (hthere q List.mem_cons_self)
    rw [← hparts] at hway₁
    -- the others are there only if they were before, or below what was made
    have hthere₁ : ∀ q' ∈ qs, ∀ loc, t₁.LeadsTo q' loc → (t₁.mode? q').isSome = true := by
      intro q' hq' loc hleads
      rcases hkept with rfl | hbare
      · exact hthere q' (List.mem_cons_of_mem q hq') loc hleads
      · have hdown := hqs q' (List.mem_cons_of_mem q hq')
        obtain ⟨more, hne, hmore⟩ := hrest.exists_parts_eq q' hq'
        have hup : ".." ∉ more := fun h ↦ hdown.up_notMem (hmore ▸ List.mem_append_right _ h)
        have hway₂ : t₁.way q' (parts q.text) = .ok r :=
          (way_congr (hdown.isAbsolute_eq.trans hq.isAbsolute_eq.symm) _).trans hway₁
        exact isSome_mode?_of_isBare (hmore ▸ hdown.checkPath_eq) hne hup hway₂ hdir₁ hbare hleads
    obtain ⟨t', hall, ht', hdone⟩ := ih ht₁ ((way_congr hq.isAbsolute_eq _).symm.trans hway₁) hdir₁
      (fun q' hq' ↦ hqs q' (List.mem_cons_of_mem q hq')) hthere₁
    refine ⟨t', (bind_of_ok hmake).trans hall, ht', fun q' hq' ↦ ?_⟩
    rcases List.mem_cons.1 hq' with rfl | hq'
    · -- what was made first stays
      exact (grown_of_makeAll_eq_ok hall).isSome_mode? hq.checkPath_eq
        ((isSome_mode?_iff hq.checkPath_eq).2 ⟨r, hway₁, hdir₁⟩)
    · exact hdone q' hq'

/-! ### The starts of a path -/

/-- The starts of a text descend from the parts of what was read before it. -/
theorem descends_startsFrom (read : List Char) (done : List (List Char)) {ps : List (List Char)}
    (hread : ∀ cs, (read ++ cs).splitOn '/' = done ++ cs.splitOn '/') (hne : ps ≠ [])
    (hps : ∀ part ∈ ps, '/' ∉ part) :
    Descends (done.map String.ofList)
      ((FilePath.startsFrom read (['/'].intercalate ps)).map fun cs ↦ ⟨String.ofList cs⟩) := by
  induction ps generalizing read done with
  | nil => exact absurd rfl hne
  | cons part ps ih =>
    have hpart := hps part List.mem_cons_self
    have hparts : parts (String.ofList (read ++ part)) =
        done.map String.ofList ++ [String.ofList part] := by
      rw [parts, String.toList_ofList, hread, List.splitOn_eq_singleton hpart, List.map_append,
        List.map_singleton]
    cases ps with
    | nil =>
      rw [List.intercalate_singleton, FilePath.startsFrom_of_notMem read hpart]
      exact .cons hparts (.nil _)
    | cons next ps =>
      have hread' : ∀ cs, (read ++ part ++ ['/'] ++ cs).splitOn '/' =
          (done ++ [part]) ++ cs.splitOn '/' := by
        intro cs
        rw [List.append_assoc (read ++ part), List.singleton_append, List.splitOn_append_cons_self,
          hread, List.splitOn_eq_singleton hpart]
      have hrest := ih _ _ hread' (List.cons_ne_nil _ _)
        fun p hp ↦ hps p (List.mem_cons_of_mem _ hp)
      rw [List.map_append, List.map_singleton, ← hparts] at hrest
      rw [List.intercalate_cons_cons, List.append_assoc, List.singleton_append,
        FilePath.startsFrom_append_slash read hpart]
      exact .cons hparts hrest

/-- No start that has read something is empty. -/
theorem filter_startsFrom {read : List Char} (hne : read ≠ []) (cs : List Char) :
    (FilePath.startsFrom read cs).filter (!·.isEmpty) = FilePath.startsFrom read cs := by
  refine List.filter_eq_self.2 fun start hstart ↦ ?_
  obtain ⟨more, rest, -, rfl, -⟩ := FilePath.mem_startsFrom_iff.1 hstart
  simp [hne]

/-- The leading directories of a path descend from where it starts. -/
theorem descends_leading (p : FilePath) :
    Descends [] p.leading ∨ Descends [""] p.leading := by
  have hsplit (cs : List Char) : ['/'].intercalate (cs.splitOn '/') = cs :=
    List.intercalate_splitOn '/'
  unfold FilePath.leading
  cases htext : p.text.toList with
  | nil => exact .inl (.nil _)
  | cons c cs =>
    rw [FilePath.startsFrom]
    split
    · rename_i hc
      have hroot := descends_startsFrom ['/'] [[]] FilePath.splitOn_slash_cons
        (List.splitOn_ne_nil '/' cs) fun _ ↦ FilePath.slash_notMem_of_mem_splitOn
      rw [hsplit] at hroot
      rw [hc, List.filter_cons_of_neg (by simp), filter_startsFrom (by simp)]
      exact .inr hroot
    · rename_i hc
      have hstart : FilePath.startsFrom [] (c :: cs) = FilePath.startsFrom ([] ++ [c]) cs := by
        rw [FilePath.startsFrom, if_neg hc]
      have hrelative := descends_startsFrom [] [] (fun _ ↦ rfl)
        (List.splitOn_ne_nil '/' (c :: cs)) fun _ ↦ FilePath.slash_notMem_of_mem_splitOn
      rw [hsplit, hstart] at hrelative
      rw [filter_startsFrom (by simp)]
      exact .inl hrelative

/-- The directories that are made for a path are its starts, from the shortest to the longest. If
each of them that is there leads to a directory, all of them do in the end, and all that was there
is as it was. -/
theorem made_makeDirectories (p : FilePath) :
    ((∀ q, q ∈ p.leading ↔ q.IsStart p) ∧
      p.leading.Pairwise (·.text.toList.length < ·.text.toList.length)) ∧
    ∀ (t : FileTree) (mode : Nat), t.IsTree → IsAccepted p → ".." ∉ parts p.text →
      (∀ q ∈ p.leading, ∀ loc, t.LeadsTo q loc → (t.mode? q).isSome = true) →
      ∃ t', makeDirectories p mode t = .ok () t' ∧ t'.IsTree ∧ Grown p.leading t t' ∧
        ∀ q ∈ p.leading, (t'.mode? q).isSome = true := by
  refine ⟨⟨fun _ ↦ FilePath.mem_leading_iff, p.pairwise_leading⟩,
    fun t mode ht haccepted hup hthere ↦ ?_⟩
  have hqs (q : FilePath) (hq : q ∈ p.leading) : GoesDown p q := haccepted.goesDown hup hq
  obtain ⟨t', hall, ht', hdone⟩ :
      ∃ t', makeAll mode p.leading t = .ok () t' ∧ t'.IsTree ∧
        ∀ q ∈ p.leading, (t'.mode? q).isSome = true := by
    have hdir := ht.isDirectory_origin p.text
    rcases descends_leading p with hd | hd
    · exact exists_makeAll mode hd ht (follow_nil t linkLimit _) hdir hqs hthere
    · exact exists_makeAll mode hd ht (follow_slashes t linkLimit _ 1) hdir hqs hthere
  exact ⟨t', hall, ht', grown_of_makeAll_eq_ok hall, hdone⟩

/-! ### By way of a link -/

section

-- what it takes to walk a path on a tree that is written out
attribute [local simp] locate walk isIdle isSlashes get? find? origin FilePath.isAbsolute linkLimit
  nameLimit ofWalk bind Except.bind pure Except.pure

/-- A tree in which a directory has two names. -/
def twoNames : FileTree where
  entries := [(["d"], .directory 0o700), (["l"], .link "d")]

/-- A tree whose links are two names of one directory. -/
theorem isTree_twoNames : twoNames.IsTree :=
  isTree_of_entries (by simp [twoNames, isDirectory_root]) (isDirectory_root _)

/-- Directories are made below the one that a link leads to. -/
theorem made_twoNames :
    twoNames.IsTree ∧ IsAccepted ⟨"l/x//y"⟩ ∧ ".." ∉ parts "l/x//y" ∧
      (∀ q ∈ FilePath.leading ⟨"l/x//y"⟩, ∀ loc, twoNames.LeadsTo q loc →
        (twoNames.mode? q).isSome = true) ∧
      ∃ t', makeDirectories ⟨"l/x//y"⟩ 0o755 twoNames = .ok () t' ∧ t'.IsTree ∧
        Grown (FilePath.leading ⟨"l/x//y"⟩) twoNames t' ∧
        ∀ q ∈ FilePath.leading ⟨"l/x//y"⟩, (t'.mode? q).isSome = true := by
  have haccepted : IsAccepted ⟨"l/x//y"⟩ :=
    ⟨by decide +kernel, by decide +kernel, by decide +kernel⟩
  have hup : ".." ∉ parts "l/x//y" := by decide +kernel
  have hleading : FilePath.leading ⟨"l/x//y"⟩ = [⟨"l"⟩, ⟨"l/x"⟩, ⟨"l/x/"⟩, ⟨"l/x//y"⟩] := by
    decide +kernel
  have hthere : ∀ q ∈ FilePath.leading ⟨"l/x//y"⟩, ∀ loc, twoNames.LeadsTo q loc →
      (twoNames.mode? q).isSome = true := by
    have hsizes : "l".utf8ByteSize = 1 ∧ "d".utf8ByteSize = 1 ∧ "x".utf8ByteSize = 1 := by
      decide +kernel
    have hd : parts "d" = ["d"] := by decide +kernel
    have h₁ : checkPath ⟨"l"⟩ = .ok ["l"] := checkPath_eq_ok_iff.2 (by decide +kernel)
    have h₂ : checkPath ⟨"l/x"⟩ = .ok ["l", "x"] := checkPath_eq_ok_iff.2 (by decide +kernel)
    have h₃ : checkPath ⟨"l/x/"⟩ = .ok ["l", "x", ""] := checkPath_eq_ok_iff.2 (by decide +kernel)
    have h₄ : checkPath ⟨"l/x//y"⟩ = .ok ["l", "x", "", "y"] :=
      checkPath_eq_ok_iff.2 (by decide +kernel)
    rw [hleading]
    simp [twoNames, LeadsTo, mode?, openPath, Except.toOption, h₁, h₂, h₃, h₄, hsizes, hd]
  exact ⟨isTree_twoNames, haccepted, hup, hthere,
    (made_makeDirectories ⟨"l/x//y"⟩).2 twoNames 0o755 isTree_twoNames haccepted hup hthere⟩

end

end NetReconcile.FileTree
