import NetReconcile.FileTree.Store
import NetReconcile.Proofs.FilePath
import NetReconcile.Proofs.FileTree.Walk

/-!
# The directory of a file, and the name beside it

The calls that write a file name three paths: that of the file, that of its directory, and that of
another name in the directory. They are spelled differently, but the last two are put together from
the first, so up to the last part all of them say the same way.

## Main statements

* `FileTree.exists_holder?_eq`: the way that the directory of a file says.
* `FileTree.exists_temporary_eq`: the way that the other name says, and its last part.
* `FileTree.exists_parts_of_mem_leading`: the ways that leading directories say.
-/

namespace NetReconcile.FileTree

variable {p dir : FilePath} {before : List String} {name : String}

/-! ### Parts of texts -/

theorem isIdle_ofList (cs : List Char) : isIdle (String.ofList cs) = FilePath.isIdle cs := by
  have hdot : String.ofList cs = "." ↔ cs = ['.'] := by
    rw [← String.toList_inj, String.toList_ofList]
    rfl
  rw [isIdle, FilePath.isIdle, Bool.eq_iff_iff]
  simp [hdot]

theorem isIdle_toList (part : String) : FilePath.isIdle part.toList = isIdle part := by
  rw [← isIdle_ofList, String.ofList_toList]

/-- The parts that lead somewhere are the same, whether a path is split as a text or as characters.
-/
theorem busyParts_parts (text : String) :
    busyParts (parts text) =
      (FilePath.busyParts (text.toList.splitOn '/')).map String.ofList := by
  rw [busyParts, parts, FilePath.busyParts, List.filter_map]
  congr 2
  funext cs
  rw [Function.comp_apply, isIdle_ofList]

/-- Parts of a text, as lists of characters. -/
theorem splitOn_eq_of_parts_eq {text : String} (h : parts text = before ++ [name]) :
    text.toList.splitOn '/' = before.map String.toList ++ [name.toList] := by
  have hmap := congrArg (List.map String.toList) h
  rw [parts, List.map_map, List.map_append, List.map_singleton] at hmap
  rw [← hmap]
  simp [Function.comp_def]

theorem busyParts_toList (ps : List String) :
    FilePath.busyParts (ps.map String.toList) = (busyParts ps).map String.toList := by
  rw [FilePath.busyParts, busyParts, List.filter_map]
  congr 2
  funext part
  rw [Function.comp_apply, isIdle_toList]

/-- Where a walk begins hangs on whether the path begins with a slash, and on nothing else. -/
theorem origin_congr {p q : FilePath} (h : p.isAbsolute = q.isAbsolute) (workDir : Location) :
    origin workDir p.text = origin workDir q.text := by
  show (if p.isAbsolute = true then [] else workDir) = if q.isAbsolute = true then [] else workDir
  rw [h]

/-- A call that accepts a path accepts each beginning of it. -/
theorem checkPath_of_isPrefix {p q : FilePath} {ps : List String} (hp : checkPath p = .ok ps)
    (hne : q.text ≠ "") (h : q.text.toList <+: p.text.toList) :
    checkPath q = .ok (parts q.text) := by
  obtain ⟨hnul, -, hsize, -⟩ := checkPath_eq_ok_iff.1 hp
  obtain ⟨rest, hrest⟩ := h
  have htext : p.text = q.text ++ String.ofList rest := by
    rw [← String.toList_inj, String.toList_append, String.toList_ofList, hrest]
  rw [htext, String.utf8ByteSize_append] at hsize
  refine checkPath_eq_ok_iff.2 ⟨fun hmem ↦ hnul ?_, hne, by omega, rfl⟩
  rw [← hrest]
  exact List.mem_append_left _ hmem

/-! ### Directories of files -/

/-- The characters of the name beside a file. -/
theorem toList_temporary (name : String) :
    ("." ++ name ++ ".tmp").toList = '.' :: (name.toList ++ ['.', 't', 'm', 'p']) := by
  simp

/-- The other name of a file leads to an entry, and not to that of the file. -/
theorem temporary_ne (name : String) :
    isIdle ("." ++ name ++ ".tmp") = false ∧ "." ++ name ++ ".tmp" ≠ ".." ∧
      "." ++ name ++ ".tmp" ≠ name := by
  refine ⟨?_, fun h ↦ ?_, fun h ↦ ?_⟩
  · rw [← isIdle_toList, toList_temporary]
    simp [FilePath.isIdle]
  · have hlength := congrArg (·.toList.length) h
    simp only [toList_temporary] at hlength
    simp at hlength
  · have hlength := congrArg (·.toList.length) h
    simp only [toList_temporary, List.length_cons, List.length_append, List.length_nil] at hlength
    omega

/-- A name beside a file can be the name of an entry. -/
theorem isName_temporary (hname : '/' ∉ name.toList) :
    FilePath.IsName ("." ++ name ++ ".tmp") := by
  constructor
  · rw [toList_temporary]
    simpa using hname
  · rw [isIdle_toList]
    exact (temporary_ne name).1

/-- The last part of the other name of a file. -/
theorem exists_parts_of_temporary {tmp : FilePath} (h : temporary p = some tmp) :
    ∃ before name, parts tmp.text = before ++ ["." ++ name ++ ".tmp"] := by
  unfold temporary at h
  obtain ⟨dir, -, h⟩ := Option.bind_eq_some_iff.1 h
  obtain ⟨name, hname, h⟩ := Option.bind_eq_some_iff.1 h
  obtain rfl := Option.some.inj h
  obtain ⟨before, hsplit, -⟩ := FilePath.exists_splitOn_join dir
    (isName_temporary (FilePath.slash_notMem_of_fileName? hname))
  refine ⟨before.map String.ofList, name, ?_⟩
  rw [parts, hsplit, List.map_append, List.map_singleton, String.ofList_toList]

section

variable (hparts : parts p.text = before ++ [name]) (hname : isIdle name = false)

include hparts hname

/-- The parts of a path that lead somewhere, up to the last one and with it. -/
theorem busyParts_splitOn_eq :
    FilePath.busyParts (p.text.toList.splitOn '/') =
      (busyParts before).map String.toList ++ [name.toList] := by
  rw [splitOn_eq_of_parts_eq hparts, FilePath.busyParts_append, busyParts_toList,
    FilePath.busyParts_singleton (by rw [isIdle_toList, hname])]

/-- The directory of a file, and the way that it says. -/
theorem exists_holder?_eq :
    ∃ dir, holder? p = some dir ∧ dir.text ≠ "" ∧ dir.isAbsolute = p.isAbsolute ∧
      busyParts (parts dir.text) = busyParts before ∧
      ∀ ps, checkPath p = .ok ps → checkPath dir = .ok (parts dir.text) := by
  obtain ⟨dir, hdir, hprefix, habsolute, hbusy⟩ :=
    FilePath.exists_parent?_eq (busyParts_splitOn_eq hparts hname)
  have hway : busyParts (parts dir.text) = busyParts before := by
    rw [busyParts_parts, hbusy, List.map_map]
    simp [Function.comp_def]
  rw [holder?, hdir, Option.map_some]
  by_cases hempty : dir.text = ""
  · -- a file in the working directory
    rw [if_pos hempty]
    refine ⟨_, rfl, by decide, ?_, ?_, fun ps _ ↦ rfl⟩
    · rw [Bool.eq_false_iff.2 fun h ↦ habsolute h hempty]
      rfl
    · rw [← hway, hempty]
      rfl
  · rw [if_neg hempty]
    exact ⟨_, rfl, hempty, FilePath.isAbsolute_eq_of_isPrefix hempty hprefix, hway,
      fun ps hp ↦ checkPath_of_isPrefix hp hempty hprefix⟩

/-- The other name of a file, and the way that it says. -/
theorem exists_temporary_eq (hup : name ≠ "..") :
    ∃ tmp beforeTmp, temporary p = some tmp ∧ tmp.isAbsolute = p.isAbsolute ∧
      parts tmp.text = beforeTmp ++ ["." ++ name ++ ".tmp"] ∧
      busyParts beforeTmp = busyParts before := by
  obtain ⟨dir, hdir, hne, habsolute, hway, -⟩ := exists_holder?_eq hparts hname
  have hfile : p.fileName? = some name := by
    have hdots : name.toList ≠ ['.', '.'] := fun h ↦ hup (String.toList_injective h)
    rw [FilePath.fileName?_eq (splitOn_eq_of_parts_eq hparts) (by rw [isIdle_toList, hname]) hdots,
      String.ofList_toList]
  have hjoined := isName_temporary (FilePath.slash_notMem_of_fileName? hfile)
  obtain ⟨beforeTmp, hsplit, hbusy⟩ := FilePath.exists_splitOn_join dir hjoined
  refine ⟨dir.join ("." ++ name ++ ".tmp"), beforeTmp.map String.ofList, ?_, ?_, ?_, ?_⟩
  · rw [temporary, hdir, hfile]
    rfl
  · rw [← habsolute]
    exact (FilePath.isAbsolute_eq_of_isPrefix hne (FilePath.isPrefix_join dir hjoined)).symm
  · rw [parts, hsplit, List.map_append, List.map_singleton, String.ofList_toList]
  · rw [← hway, busyParts_parts, ← hbusy, FilePath.busyParts, busyParts, List.filter_map]
    congr 2
    funext cs
    rw [Function.comp_apply, isIdle_ofList]

end

/-! ### Leading directories -/

/-- A directory that leads to a path says the first parts of its way. -/
theorem exists_parts_of_mem_leading {q : FilePath} (h : q ∈ p.leading) :
    q.text ≠ "" ∧ q.isAbsolute = p.isAbsolute ∧ (∃ rest, parts p.text = parts q.text ++ rest) ∧
      ∀ ps, checkPath p = .ok ps → checkPath q = .ok (parts q.text) := by
  obtain ⟨hne, hprefix, rest, hrest⟩ := FilePath.exists_splitOn_of_mem_leading h
  refine ⟨hne, FilePath.isAbsolute_eq_of_isPrefix hne hprefix, ⟨rest.map String.ofList, ?_⟩,
    fun ps hp ↦ checkPath_of_isPrefix hp hne hprefix⟩
  rw [parts, hrest, List.map_append, parts]

end NetReconcile.FileTree
