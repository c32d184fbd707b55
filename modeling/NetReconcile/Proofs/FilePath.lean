import NetReconcile.FilePath

/-!
# What paths name

How a path starts tells its first component; all others are told by the parts of its text between
slashes. Joining a name to a directory puts the name after the parts of the directory, so files of
different names below one directory have different paths.

## Main statements

* `FilePath.components_eq`: components by the parts of the whole text.
* `FilePath.exists_splitOn_join`: the parts of a path that is a directory with a name joined to it.
* `FilePath.eq_of_same_join`, `FilePath.same_join_iff`: names below directories are told apart.

## Texts and components

Paths are compared by their components, so different texts can be the same path: slashes in a row,
single dots and slashes at the end make no difference. What calls go through are the parts of the
text. Both are read off `splitOn` here, and `busyParts` are the parts on which they agree, those
that lead somewhere. A property of paths is shown by what it says of these.
-/

namespace NetReconcile

namespace FilePath

/-! ### The start of a text -/

theorem splitOn_slash_cons (cs : List Char) : ('/' :: cs).splitOn '/' = [] :: cs.splitOn '/' :=
  List.splitOn_append_cons_self [] cs

theorem splitOn_dot_slash_cons (cs : List Char) :
    ('.' :: '/' :: cs).splitOn '/' = ['.'] :: cs.splitOn '/' :=
  List.splitOn_append_cons_self ['.'] cs

/-- The start of a text, and the parts after it. -/
inductive Anchored : List Char → List Char × List (List Char) → Prop
  | root (cs : List Char) : Anchored ('/' :: cs) (['/'], cs.splitOn '/')
  | alone : Anchored ['.'] (['.'], [])
  | here (cs : List Char) : Anchored ('.' :: '/' :: cs) (['.'], [] :: cs.splitOn '/')
  | relative (cs : List Char) (hcs : cs.head? ≠ some '/') : Anchored cs ([], cs.splitOn '/')

/-- Splitting off the start of a path and then its parts loses nothing of it. -/
theorem anchored_anchorAndParts (cs : List Char) : Anchored cs (anchorAndParts cs) := by
  unfold anchorAndParts
  split
  · exact .root _
  · exact .alone
  · rename_i cs
    rw [splitOn_slash_cons]
    exact .here cs
  · rename_i hroot _ _
    refine .relative cs fun hhead ↦ ?_
    obtain ⟨rest, rfl⟩ := List.head?_eq_some_iff.1 hhead
    exact hroot rest rfl

/-! ### Parts that lead somewhere -/

/-- Parts without those that lead nowhere. -/
def busyParts (parts : List (List Char)) : List (List Char) :=
  parts.filter (!isIdle ·)

@[simp]
theorem busyParts_nil : busyParts [] = [] :=
  rfl

/-- Each part leads somewhere or not, whatever stands around it. -/
@[simp]
theorem busyParts_append (parts parts' : List (List Char)) :
    busyParts (parts ++ parts') = busyParts parts ++ busyParts parts' :=
  List.filter_append _ _

theorem busyParts_cons_of_idle {part : List Char} (hpart : isIdle part = true)
    (parts : List (List Char)) : busyParts (part :: parts) = busyParts parts :=
  List.filter_cons_of_neg (by simp [hpart])

theorem busyParts_singleton {part : List Char} (hpart : isIdle part = false) :
    busyParts [part] = [part] :=
  List.filter_cons_of_pos (by simp [hpart])

/-- Leaving out the end of parts that leads nowhere leaves the others. -/
theorem busyParts_dropIdleEnd (parts : List (List Char)) :
    busyParts (dropIdleEnd parts) = busyParts parts := by
  have hdropped : ∀ ps : List (List Char), busyParts (ps.dropWhile isIdle) = busyParts ps := by
    intro ps
    induction ps with
    | nil => rfl
    | cons part ps ih =>
      cases hpart : isIdle part with
      | true => rw [List.dropWhile_cons_of_pos hpart, ih, busyParts_cons_of_idle hpart]
      | false => rw [List.dropWhile_cons_of_neg (by simp [hpart])]
  unfold dropIdleEnd busyParts at *
  rw [List.filter_reverse, hdropped, List.filter_reverse, List.reverse_reverse]

/-- Parts that are put together with slashes are found again, but for those that lead nowhere. -/
theorem busyParts_splitOn_intercalate {parts : List (List Char)} (h : ∀ part ∈ parts, '/' ∉ part) :
    busyParts ((['/'].intercalate parts).splitOn '/') = busyParts parts := by
  cases parts with
  | nil => rfl
  | cons part parts => rw [List.splitOn_intercalate '/' h (List.cons_ne_nil _ _)]

/-- Parts between slashes have no slash. -/
theorem slash_notMem_of_mem_splitOn {cs part : List Char} (h : part ∈ cs.splitOn '/') :
    '/' ∉ part := by
  induction cs generalizing part with
  | nil =>
    rw [List.splitOn_nil, List.mem_singleton] at h
    rw [h]
    exact List.not_mem_nil
  | cons c cs ih =>
    rw [List.splitOn_cons_eq_if_modifyHead] at h
    split at h
    · rcases List.mem_cons.1 h with rfl | h
      · exact List.not_mem_nil
      · exact ih h
    · rename_i hc
      cases hparts : cs.splitOn '/' with
      | nil => exact absurd hparts (List.splitOn_ne_nil _ _)
      | cons first parts =>
        rw [hparts] at h ih
        rw [List.modifyHead_cons, List.mem_cons] at h
        rcases h with rfl | h
        · rw [List.mem_cons, not_or]
          exact ⟨fun heq ↦ hc (by simp [← heq]), ih List.mem_cons_self⟩
        · exact ih (List.mem_cons_of_mem _ h)

/-- The parts after the start of a path are all that lead somewhere. -/
theorem Anchored.busyParts_eq {cs : List Char} {x : List Char × List (List Char)}
    (h : Anchored cs x) : busyParts x.2 = busyParts (cs.splitOn '/') := by
  cases h with
  | root cs => rw [splitOn_slash_cons, busyParts_cons_of_idle rfl]
  | alone => rfl
  | here cs =>
    rw [splitOn_dot_slash_cons, busyParts_cons_of_idle rfl, busyParts_cons_of_idle rfl]
  | relative => rfl

/-! ### Components by parts -/

/-- Parts that lead nowhere are no components. -/
theorem componentOf?_of_isIdle {part : List Char} (hpart : isIdle part = true) :
    componentOf? part = none := by
  rw [componentOf?, if_pos hpart]

/-- A part that leads somewhere is told by its component. -/
theorem componentOf?_inj {part part' : List Char} (hpart : isIdle part = false)
    (heq : componentOf? part = componentOf? part') : part = part' := by
  unfold componentOf? at heq
  rw [if_neg (by simp [hpart])] at heq
  split at heq
  · rename_i hup
    split at heq
    · cases heq
    · split at heq
      · rename_i hup'
        rw [hup, hup']
      · cases heq
  · split at heq
    · cases heq
    · split at heq
      · cases heq
      · exact Component.entry.inj (Option.some.inj heq)

/-- Parts that lead nowhere can be left out before components are read off. -/
theorem filterMap_busyParts (parts : List (List Char)) :
    (busyParts parts).filterMap componentOf? = parts.filterMap componentOf? := by
  induction parts with
  | nil => rfl
  | cons part parts ih =>
    cases hpart : isIdle part with
    | true =>
      rw [busyParts_cons_of_idle hpart, ih,
        List.filterMap_cons_none (componentOf?_of_isIdle hpart)]
    | false =>
      rw [← List.singleton_append, busyParts_append, busyParts_singleton hpart,
        List.filterMap_append, List.filterMap_append, ih]

/-- The first component says how the path starts, the others are those of its parts. -/
theorem components_eq (p : FilePath) :
    p.components = anchorComponent (anchorAndParts p.text.toList).1 ++
      (p.text.toList.splitOn '/').filterMap componentOf? := by
  have hparts : (anchorAndParts p.text.toList).2.filterMap componentOf? =
      (p.text.toList.splitOn '/').filterMap componentOf? := by
    rw [← filterMap_busyParts, (anchored_anchorAndParts _).busyParts_eq, filterMap_busyParts]
  exact congrArg _ hparts

/-! ### Names below a directory -/

/-- A text that can be the name of an entry of a directory. -/
structure IsName (name : String) : Prop where
  slash_notMem : '/' ∉ name.toList
  isIdle_eq : isIdle name.toList = false

namespace IsName

variable {name : String}

theorem isAbsolute_eq (hname : IsName name) : (FilePath.mk name).isAbsolute = false := by
  refine decide_eq_false fun hhead ↦ hname.slash_notMem ?_
  exact List.mem_of_head? hhead

end IsName

/-- A name that is joined to a directory is the last part, after the parts of the directory. -/
theorem exists_splitOn_join (dir : FilePath) {name : String} (hname : IsName name) :
    ∃ before, (dir.join name).text.toList.splitOn '/' = before ++ [name.toList] ∧
      busyParts before = busyParts (dir.text.toList.splitOn '/') := by
  have hlast : name.toList.splitOn '/' = [name.toList] :=
    List.splitOn_eq_singleton hname.slash_notMem
  rw [join, if_neg (by simp [hname.isAbsolute_eq])]
  split
  · rename_i hend
    rcases List.eq_nil_or_concat dir.text.toList with hnil | ⟨before, c, hdir⟩
    · refine ⟨[], ?_, ?_⟩
      · rw [String.toList_append, hnil, List.nil_append, hlast, List.nil_append]
      · rw [hnil]
        rfl
    · obtain rfl : c = '/' := by simpa [hdir] using hend
      rw [List.concat_eq_append] at hdir
      refine ⟨before.splitOn '/', ?_, ?_⟩
      · rw [String.toList_append, hdir, List.append_assoc, List.singleton_append,
          List.splitOn_append_cons_self, hlast]
      · rw [hdir, List.splitOn_append_cons_self, busyParts_append]
        exact (List.append_nil _).symm
  · refine ⟨dir.text.toList.splitOn '/', ?_, rfl⟩
    have htext : (dir.text ++ "/" ++ name).toList = dir.text.toList ++ '/' :: name.toList := by
      simp
    rw [htext, List.splitOn_append_cons_self, hlast]

/-- Joining a name to a directory leaves the text of the directory. -/
theorem isPrefix_join (dir : FilePath) {name : String} (hname : IsName name) :
    dir.text.toList <+: (dir.join name).text.toList := by
  rw [join, if_neg (by simp [hname.isAbsolute_eq])]
  split
  · rw [String.toList_append]
    exact List.prefix_append _ _
  · rw [String.toList_append, String.toList_append, List.append_assoc]
    exact List.prefix_append _ _

/-- The last component of a path with a name joined to it is that name. -/
theorem getLast?_components_join (dir : FilePath) {name : String} (hname : IsName name) :
    (dir.join name).components.getLast? = componentOf? name.toList := by
  obtain ⟨before, hsplit, -⟩ := exists_splitOn_join dir hname
  obtain ⟨component, hcomponent⟩ : ∃ component, componentOf? name.toList = some component := by
    unfold componentOf?
    rw [if_neg (by simp [hname.isIdle_eq])]
    split
    · exact ⟨_, rfl⟩
    · exact ⟨_, rfl⟩
  rw [components_eq, hsplit, List.filterMap_append, List.filterMap_cons_some hcomponent,
    List.filterMap_nil, ← List.append_assoc, List.getLast?_concat, hcomponent]

/-- The name of a file is told by its path, whatever directory it is joined to. -/
theorem eq_of_same_join {dir dir' : FilePath} {name name' : String} (hname : IsName name)
    (hname' : IsName name') (hsame : (dir.join name).same (dir'.join name') = true) :
    name = name' := by
  have hlast : componentOf? name.toList = componentOf? name'.toList := by
    rw [← getLast?_components_join dir hname, ← getLast?_components_join dir' hname',
      same_iff.1 hsame]
  exact String.toList_injective (componentOf?_inj hname.isIdle_eq hlast)

/-- Names below one directory are told apart. -/
theorem same_join_iff (dir : FilePath) {name name' : String} (hname : IsName name)
    (hname' : IsName name') : (dir.join name).same (dir.join name') = true ↔ name = name' :=
  ⟨eq_of_same_join hname hname', fun heq ↦ heq ▸ same_refl _⟩

/-! ### Directories of files -/

/-- A path that says the first parts of another one is a start of its text. -/
theorem intercalate_isPrefix {parts parts' : List (List Char)} (h : parts <+: parts') :
    ['/'].intercalate parts <+: ['/'].intercalate parts' := by
  obtain ⟨rest, rfl⟩ := h
  induction parts with
  | nil => exact List.nil_prefix
  | cons part parts ih =>
    cases parts with
    | nil =>
      cases rest with
      | nil => exact List.prefix_refl _
      | cons next rest =>
        rw [List.intercalate_singleton, List.singleton_append, List.intercalate_cons_cons,
          List.append_assoc]
        exact List.prefix_append _ _
    | cons next parts =>
      rw [List.cons_append, List.cons_append, List.intercalate_cons_cons,
        List.intercalate_cons_cons]
      exact (List.prefix_append_right_inj _).2 ih

/-- Parts at the end that lead nowhere are dropped, and no others. -/
theorem dropIdleEnd_isPrefix (parts : List (List Char)) : dropIdleEnd parts <+: parts := by
  have h := List.dropWhile_suffix isIdle (l := parts.reverse)
  rw [← List.reverse_prefix, List.reverse_reverse] at h
  exact h

/-- A text is its start and the parts after it, with slashes between them. -/
theorem Anchored.eq_append {cs : List Char} {x : List Char × List (List Char)}
    (h : Anchored cs x) : cs = x.1 ++ ['/'].intercalate x.2 := by
  cases h with
  | root cs => rw [List.intercalate_splitOn, List.singleton_append]
  | alone => rfl
  | here cs => rw [← splitOn_slash_cons, List.intercalate_splitOn, List.singleton_append]
  | relative => rw [List.intercalate_splitOn, List.nil_append]

/-- The beginning of the parts after the start of a text, put together again, has these parts. -/
theorem Anchored.busyParts_splitOn {cs : List Char} {x : List Char × List (List Char)}
    (h : Anchored cs x) {parts : List (List Char)} (hparts : parts <+: x.2) :
    busyParts ((x.1 ++ ['/'].intercalate parts).splitOn '/') = busyParts parts := by
  cases h with
  | root cs =>
    rw [List.singleton_append, splitOn_slash_cons, busyParts_cons_of_idle rfl]
    exact busyParts_splitOn_intercalate fun part hpart ↦
      slash_notMem_of_mem_splitOn (hparts.subset hpart)
  | alone =>
    obtain rfl := List.prefix_nil.1 hparts
    rfl
  | here cs =>
    -- the first part is the empty one between the dot and the slash after it
    cases parts with
    | nil => rfl
    | cons first parts =>
      obtain ⟨rfl, hrest⟩ := List.cons_prefix_cons.1 hparts
      cases parts with
      | nil => rfl
      | cons next parts =>
        rw [List.intercalate_cons_cons, List.nil_append, List.singleton_append,
          List.singleton_append, splitOn_dot_slash_cons, busyParts_cons_of_idle rfl,
          busyParts_cons_of_idle rfl]
        exact busyParts_splitOn_intercalate fun part hpart ↦
          slash_notMem_of_mem_splitOn (hrest.subset hpart)
  | relative =>
    rw [List.nil_append]
    exact busyParts_splitOn_intercalate fun part hpart ↦
      slash_notMem_of_mem_splitOn (hparts.subset hpart)

/-- A path that begins with a slash is not empty, whatever is left of its parts. -/
theorem Anchored.ofList_ne_empty {cs anchor : List Char} {parts : List (List Char)}
    (h : Anchored cs (anchor, parts)) (hcs : cs.head? = some '/') (rest : List Char) :
    String.ofList (anchor ++ rest) ≠ "" := by
  cases h with
  | root | alone | here => simp
  | relative _ hcs' => exact absurd hcs hcs'

/-- What is left ends with a part that leads somewhere, if there is one. -/
theorem exists_dropIdleEnd_eq {parts : List (List Char)} (h : busyParts parts ≠ []) :
    ∃ before last, dropIdleEnd parts = before ++ [last] ∧ isIdle last = false := by
  rw [← busyParts_dropIdleEnd] at h
  unfold dropIdleEnd at h ⊢
  cases hd : parts.reverse.dropWhile isIdle with
  | nil =>
    rw [hd] at h
    exact absurd rfl h
  | cons last before =>
    have hne : parts.reverse.dropWhile isIdle ≠ [] := by
      rw [hd]
      exact List.cons_ne_nil last before
    have hlast := List.head_dropWhile_not isIdle hne
    simp only [hd, List.head_cons] at hlast
    exact ⟨before.reverse, last, List.reverse_cons, hlast⟩

/-- A path without its last part is a beginning of the path, and has all other parts of it that lead
somewhere. -/
theorem exists_parent?_eq {p : FilePath} {before : List (List Char)} {name : List Char}
    (hbusy : busyParts (p.text.toList.splitOn '/') = before ++ [name]) :
    ∃ dir, p.parent? = some dir ∧ dir.text.toList <+: p.text.toList ∧
      (p.isAbsolute = true → dir.text ≠ "") ∧
      busyParts (dir.text.toList.splitOn '/') = before := by
  have hanchored := anchored_anchorAndParts p.text.toList
  rw [← hanchored.busyParts_eq] at hbusy
  have htext := hanchored.eq_append
  unfold parent?
  generalize anchorAndParts p.text.toList = x at hanchored hbusy htext
  obtain ⟨anchor, parts⟩ := x
  have hne : busyParts parts ≠ [] := by simp [hbusy]
  obtain ⟨mid, last, hend, hlast⟩ := exists_dropIdleEnd_eq hne
  -- all but the last part, put together again
  have hmid : dropIdleEnd mid <+: parts :=
    (dropIdleEnd_isPrefix mid).trans ((List.prefix_append mid [last]).trans
      (hend ▸ dropIdleEnd_isPrefix parts))
  have hbefore : busyParts mid = before := by
    rw [← busyParts_dropIdleEnd, hend, busyParts_append, busyParts_singleton hlast] at hbusy
    exact (List.append_inj' hbusy rfl).1
  refine ⟨⟨String.ofList (anchor ++ ['/'].intercalate (dropIdleEnd mid))⟩, ?_, ?_, ?_, ?_⟩
  · dsimp only
    rw [hend]
    split
    · rename_i hnil
      exact absurd hnil (List.concat_ne_nil last mid)
    · rename_i hnil _
      exact absurd hnil (List.concat_ne_nil last mid)
    · rw [List.dropLast_concat]
  · rw [String.toList_ofList, htext]
    exact (List.prefix_append_right_inj _).2 (intercalate_isPrefix hmid)
  · exact fun habsolute ↦ hanchored.ofList_ne_empty (by simpa [isAbsolute] using habsolute) _
  · rw [String.toList_ofList, hanchored.busyParts_splitOn hmid, busyParts_dropIdleEnd, hbefore]

/-- The name of a file is its last part, if that leads somewhere and not to the parent. -/
theorem fileName?_eq {p : FilePath} {before : List (List Char)} {name : List Char}
    (hsplit : p.text.toList.splitOn '/' = before ++ [name]) (hname : isIdle name = false)
    (hup : name ≠ ['.', '.']) : p.fileName? = some (String.ofList name) := by
  have hentry : componentOf? name = some (.entry name) := by
    rw [componentOf?, if_neg (by simp [hname]), if_neg hup]
  rw [fileName?, components_eq, hsplit, List.filterMap_append,
    List.filterMap_cons_some hentry, List.filterMap_nil, ← List.append_assoc,
    List.getLast?_concat]

/-- The name of a file is one of its parts. -/
theorem slash_notMem_of_fileName? {p : FilePath} {name : String} (h : p.fileName? = some name) :
    '/' ∉ name.toList := by
  unfold fileName? at h
  split at h
  · rename_i cs hlast
    obtain rfl := Option.some.inj h
    rw [String.toList_ofList]
    have hmem := List.mem_of_getLast? hlast
    rw [components_eq, List.mem_append] at hmem
    rcases hmem with hmem | hmem
    · -- the start of a path is no entry
      unfold anchorComponent at hmem
      split at hmem
      · simp at hmem
      · simp at hmem
      · simp at hmem
    · obtain ⟨part, hpart, hcomponent⟩ := List.mem_filterMap.1 hmem
      unfold componentOf? at hcomponent
      split at hcomponent
      · cases hcomponent
      · split at hcomponent
        · cases hcomponent
        · cases hcomponent
          exact slash_notMem_of_mem_splitOn hpart
  · cases h

/-! ### Leading directories -/

/-- A start of a text that ends before a slash has the first parts of the text. -/
theorem exists_splitOn_of_mem_startsFrom {read cs start : List Char}
    (h : start ∈ startsFrom read cs) :
    start <+: read ++ cs ∧
      ∃ rest, (read ++ cs).splitOn '/' = start.splitOn '/' ++ rest := by
  induction cs generalizing read with
  | nil =>
    rw [startsFrom, List.mem_singleton] at h
    rw [h, List.append_nil]
    exact ⟨List.prefix_refl _, [], (List.append_nil _).symm⟩
  | cons c cs ih =>
    have hnext : read ++ c :: cs = read ++ [c] ++ cs := by simp
    rw [startsFrom] at h
    split at h
    · rename_i hc
      rcases List.mem_cons.1 h with rfl | h
      · rw [hc, List.splitOn_append_cons_self]
        exact ⟨List.prefix_append _ _, _, rfl⟩
      · rw [hnext]
        exact ih h
    · rw [hnext]
      exact ih h

/-- A directory that leads to a path is a beginning of the path and has its first parts. -/
theorem exists_splitOn_of_mem_leading {p q : FilePath} (h : q ∈ p.leading) :
    q.text ≠ "" ∧ q.text.toList <+: p.text.toList ∧
      ∃ rest, p.text.toList.splitOn '/' = q.text.toList.splitOn '/' ++ rest := by
  obtain ⟨start, hstart, rfl⟩ := List.mem_map.1 h
  obtain ⟨hmem, hne⟩ := List.mem_filter.1 hstart
  obtain ⟨hbegins, hrest⟩ := exists_splitOn_of_mem_startsFrom hmem
  rw [String.toList_ofList]
  refine ⟨?_, hbegins, hrest⟩
  simpa using hne

/-- A beginning of a path starts where the path does. -/
theorem isAbsolute_eq_of_isPrefix {p q : FilePath} (hne : q.text ≠ "")
    (h : q.text.toList <+: p.text.toList) : q.isAbsolute = p.isAbsolute := by
  obtain ⟨rest, hrest⟩ := h
  have hq : q.text.toList ≠ [] := by simpa using hne
  obtain ⟨c, cs, hcs⟩ := List.exists_cons_of_ne_nil hq
  rw [isAbsolute, isAbsolute, ← hrest, hcs]
  rfl

end FilePath

end NetReconcile
