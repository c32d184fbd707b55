import NetReconcile.FileTree.Walk
import NetReconcile.Proofs.Checks

/-!
# The way to the end of a path

A walk goes to a directory first, and only its last part is treated by what the walk is for. The way
to that directory is followed by itself here: `FileTree.follow` walks parts that all have to lead to
a directory, and a walk along more parts is such a way and then the rest (`FileTree.walk_append`).

Files and missing entries have no part in a way that can be followed, so a way stays as it is on a
tree that has all directories and all links of another one. Parts that lead nowhere can be left out.

## Main definitions

* `FileTree.follow`: walks to a directory.
* `FileTree.HasWays`: a tree has all directories and links of another one.

## Main statements

* `FileTree.walk_append`: a walk is a way and what comes after it.
* `FileTree.follow_of_hasWays`: a way stays on a tree that has all directories and links.
* `FileTree.follow_busyParts`: parts that lead nowhere can be left out of a way.
-/

namespace NetReconcile.FileTree

variable {t t' : FileTree} {links : Nat} {dir : Location} {ps rest : List String}

/-- Walks parts that all have to lead to a directory. The answer is that directory, and how many
links may still be replaced after it. -/
def follow (t : FileTree) (links : Nat) (dir : Location) :
    List String → Except Errno (Location × Nat)
  | [] => .ok (dir, links)
  | part :: rest =>
    if isIdle part then t.follow links dir rest
    else if part = ".." then t.follow links dir.tail rest
    else if nameLimit < part.utf8ByteSize then .error .nameTooLong
    else
      match t.get? (part :: dir) with
      | none => .error .noEntry
      | some (.directory _) => t.follow links (part :: dir) rest
      | some (.file _ _) => .error .notDirectory
      | some (.link target) =>
        match links with
        | 0 => .error .tooManyLinks
        | links + 1 => t.follow links (origin dir target) (parts target ++ rest)
termination_by part => (links, part.length)

/-- A part that names an entry of a directory, and is not too long for a name. -/
structure IsEntryName (part : String) : Prop where
  isIdle_eq : isIdle part = false
  ne_up : part ≠ ".."
  size_le : part.utf8ByteSize ≤ nameLimit

theorem isIdle_eq_false_iff {part : String} : isIdle part = false ↔ part ≠ "" ∧ part ≠ "." := by
  simp [isIdle]

theorem isEntryName_of {part : String} (hidle : ¬isIdle part = true) (hup : ¬part = "..")
    (hlong : ¬nameLimit < part.utf8ByteSize) : IsEntryName part :=
  ⟨Bool.eq_false_iff.2 hidle, hup, Nat.not_lt.1 hlong⟩

/-! ### Single steps -/

section

variable {goal : Goal} {part : String}

/-- Empty parts and single dots lead nowhere in a walk. -/
theorem walk_of_isIdle (hidle : isIdle part = true) :
    t.walk goal links dir (part :: rest) = t.walk goal links dir rest := by
  rw [walk, if_pos hidle]

/-- A walk goes on at the entry that a name names. -/
theorem walk_of_isEntryName (hname : IsEntryName part)
    (hslash : (goal = .file && isSlashes rest) = false) :
    t.walk goal links dir (part :: rest) =
      match t.get? (part :: dir) with
      | none => if rest = [] then .ok (.absent dir part) else .error .noEntry
      | some (.directory _) => t.walk goal links (part :: dir) rest
      | some (.file _ _) =>
        if rest = [] then .ok (.existing (part :: dir)) else .error .notDirectory
      | some (.link target) =>
        if rest = [] && goal = .entry then .ok (.existing (part :: dir))
        else
          match links with
          | 0 => .error .tooManyLinks
          | links + 1 => t.walk goal links (origin dir target) (parts target ++ rest) := by
  rw [walk, if_neg (Bool.eq_false_iff.1 hname.isIdle_eq), if_neg hname.ne_up,
    if_neg (Bool.eq_false_iff.1 hslash)]
  exact if_neg (Nat.not_lt.2 hname.size_le)

theorem follow_of_isIdle (hidle : isIdle part = true) :
    t.follow links dir (part :: rest) = t.follow links dir rest := by
  rw [follow, if_pos hidle]

theorem follow_nil (t : FileTree) (links : Nat) (dir : Location) :
    t.follow links dir [] = .ok (dir, links) := by
  rw [follow]

/-- A way goes on at the entry that a name names. -/
theorem follow_of_isEntryName (hname : IsEntryName part) :
    t.follow links dir (part :: rest) =
      match t.get? (part :: dir) with
      | none => .error .noEntry
      | some (.directory _) => t.follow links (part :: dir) rest
      | some (.file _ _) => .error .notDirectory
      | some (.link target) =>
        match links with
        | 0 => .error .tooManyLinks
        | links + 1 => t.follow links (origin dir target) (parts target ++ rest) := by
  rw [follow, if_neg (Bool.eq_false_iff.1 hname.isIdle_eq), if_neg hname.ne_up,
    if_neg (Nat.not_lt.2 hname.size_le)]

end

/-! ### A way and what comes after it -/

section

variable {goal : Goal}

/-- What a walk is for has no part before its rest, unless the rest is slashes alone. -/
theorem file_and_isSlashes_append (hne : rest ≠ []) (hgoal : goal = .file → isSlashes rest = false)
    (ps : List String) : (goal = .file && isSlashes (ps ++ rest)) = false := by
  by_cases hfile : goal = .file
  · have hrest := hgoal hfile
    unfold isSlashes at hrest ⊢
    rw [List.isEmpty_eq_false_iff.2 hne, Bool.not_false, Bool.true_and] at hrest
    rw [List.all_append, hrest, Bool.and_false, Bool.and_false, Bool.and_false]
  · rw [decide_eq_false hfile, Bool.false_and]

/-- A walk along more parts is a way to a directory, and then the rest. -/
theorem walk_append (t : FileTree) (hne : rest ≠ [])
    (hgoal : goal = .file → isSlashes rest = false) (links : Nat) (dir : Location)
    (ps : List String) :
    t.walk goal links dir (ps ++ rest) =
      (t.follow links dir ps).bind fun r ↦ t.walk goal r.2 r.1 rest := by
  have hnil : ∀ ps : List String, ps ++ rest ≠ [] := fun ps ↦
    List.append_ne_nil_of_right_ne_nil ps hne
  have hslash := file_and_isSlashes_append hne hgoal
  -- `rest` is still to come, so no part of `ps` is the last one, which walks treat differently
  fun_induction follow t links dir ps with
  | case1 links dir => rfl
  | case2 links dir part ps hidle ih => rw [List.cons_append, walk_of_isIdle hidle, ih]
  | case3 links dir ps hidle ih =>
    rw [List.cons_append, walk, if_neg hidle, if_pos rfl, ih]
  | case4 links dir part ps hidle hup hlong =>
    rw [List.cons_append, walk, if_neg hidle, if_neg hup,
      if_neg (Bool.eq_false_iff.1 (hslash ps)), if_pos hlong]
    rfl
  | case5 links dir part ps hidle hup hlong hget =>
    have hname := isEntryName_of hidle hup hlong
    rw [List.cons_append, walk_of_isEntryName hname (hslash ps), hget]
    exact if_neg (hnil ps)
  | case6 links dir part ps hidle hup hlong mode hget ih =>
    have hname := isEntryName_of hidle hup hlong
    rw [List.cons_append, walk_of_isEntryName hname (hslash ps), hget]
    exact ih
  | case7 links dir part ps hidle hup hlong bytes isExecutable hget =>
    have hname := isEntryName_of hidle hup hlong
    rw [List.cons_append, walk_of_isEntryName hname (hslash ps), hget]
    exact if_neg (hnil ps)
  | case8 dir part ps hidle hup hlong target hget =>
    have hname := isEntryName_of hidle hup hlong
    rw [List.cons_append, walk_of_isEntryName hname (hslash ps), hget]
    exact if_neg (by simp [hne])
  | case9 dir part ps hidle hup hlong target hget links ih =>
    have hname := isEntryName_of hidle hup hlong
    rw [List.append_assoc] at ih
    rw [List.cons_append, walk_of_isEntryName hname (hslash ps), hget, ← ih]
    exact if_neg (by simp [hne])

end

/-- A way along more parts is a way, and then another one. -/
theorem follow_append (t : FileTree) (links : Nat) (dir : Location) (ps rest : List String) :
    t.follow links dir (ps ++ rest) =
      (t.follow links dir ps).bind fun r ↦ t.follow r.2 r.1 rest := by
  fun_induction follow t links dir ps with
  | case1 links dir => rfl
  | case2 links dir part ps hidle ih => rw [List.cons_append, follow_of_isIdle hidle, ih]
  | case3 links dir ps hidle ih => rw [List.cons_append, follow, if_neg hidle, if_pos rfl, ih]
  | case4 links dir part ps hidle hup hlong =>
    rw [List.cons_append, follow, if_neg hidle, if_neg hup, if_pos hlong]
    rfl
  | case5 links dir part ps hidle hup hlong hget =>
    have hname := isEntryName_of hidle hup hlong
    rw [List.cons_append, follow_of_isEntryName hname, hget]
    rfl
  | case6 links dir part ps hidle hup hlong mode hget ih =>
    have hname := isEntryName_of hidle hup hlong
    rw [List.cons_append, follow_of_isEntryName hname, hget, ← ih]
  | case7 links dir part ps hidle hup hlong bytes isExecutable hget =>
    have hname := isEntryName_of hidle hup hlong
    rw [List.cons_append, follow_of_isEntryName hname, hget]
    rfl
  | case8 dir part ps hidle hup hlong target hget =>
    have hname := isEntryName_of hidle hup hlong
    rw [List.cons_append, follow_of_isEntryName hname, hget]
    rfl
  | case9 dir part ps hidle hup hlong target hget links ih =>
    -- the parts of the link are put before those that are left
    have hname := isEntryName_of hidle hup hlong
    rw [List.append_assoc] at ih
    rw [List.cons_append, follow_of_isEntryName hname, hget, ← ih]

/-! ### Ways on other trees -/

/-- Whether a node can be on a way. -/
def Node.isOnWays : Node → Bool
  | .directory _ | .link _ => true
  | .file _ _ => false

/-- One tree has all directories and all links of another one. -/
def HasWays (t t' : FileTree) : Prop :=
  ∀ loc node, t.get? loc = some node → node.isOnWays = true → t'.get? loc = some node

/-- A way stays as it is on a tree that has all directories and links. -/
theorem follow_of_hasWays (hways : HasWays t t') {r : Location × Nat}
    (h : t.follow links dir ps = .ok r) : t'.follow links dir ps = .ok r := by
  fun_induction follow t links dir ps with
  | case1 links dir => rwa [follow_nil]
  | case2 links dir part ps hidle ih => exact (follow_of_isIdle hidle).trans (ih h)
  | case3 links dir ps hidle ih =>
    rw [follow, if_neg hidle, if_pos rfl]
    exact ih h
  | case4 | case5 | case7 | case8 => cases h
  | case6 links dir part ps hidle hup hlong mode hget ih =>
    rw [follow_of_isEntryName (isEntryName_of hidle hup hlong), hways _ _ hget rfl]
    exact ih h
  | case9 dir part ps hidle hup hlong target hget links ih =>
    rw [follow_of_isEntryName (isEntryName_of hidle hup hlong), hways _ _ hget rfl]
    exact ih h

/-! ### Parts that lead nowhere -/

/-- A way goes part by part, and the links that are left after one part are those for the rest. -/
theorem follow_cons (t : FileTree) (links : Nat) (dir : Location) (part : String)
    (ps : List String) :
    t.follow links dir (part :: ps) =
      (t.follow links dir [part]).bind fun r ↦ t.follow r.2 r.1 ps :=
  t.follow_append links dir [part] ps

/-- Parts without those that lead nowhere. -/
def busyParts (ps : List String) : List String :=
  ps.filter (!isIdle ·)

/-- Parts that lead nowhere can be left out of a way. -/
theorem follow_busyParts (t : FileTree) (links : Nat) (dir : Location) (ps : List String) :
    t.follow links dir (busyParts ps) = t.follow links dir ps := by
  induction ps generalizing links dir with
  | nil => rfl
  | cons part ps ih =>
    unfold busyParts at ih ⊢
    cases hidle : isIdle part with
    | true => rw [List.filter_cons_of_neg (by simp [hidle]), ih, follow_of_isIdle hidle]
    | false =>
      rw [List.filter_cons_of_pos (by simp [hidle]), follow_cons, t.follow_cons _ _ part ps]
      simp only [ih]

/-- Ways that differ in parts that lead nowhere are the same. -/
theorem follow_congr {qs : List String} (heq : busyParts ps = busyParts qs) :
    t.follow links dir ps = t.follow links dir qs := by
  rw [← follow_busyParts, heq, follow_busyParts]

theorem follow_slashes (t : FileTree) (links : Nat) (dir : Location) (k : Nat) :
    t.follow links dir (List.replicate k "") = .ok (dir, links) := by
  have hidle : busyParts (List.replicate k "") = busyParts [] :=
    List.filter_eq_nil_iff.2 fun part hpart ↦ by
      rw [List.eq_of_mem_replicate hpart]
      decide
  rw [follow_congr hidle, follow_nil]

/-- The beginning of a way that can be followed can be followed. -/
theorem exists_follow_of_append {r : Location × Nat}
    (h : t.follow links dir (ps ++ rest) = .ok r) : ∃ r', t.follow links dir ps = .ok r' := by
  rw [follow_append] at h
  obtain ⟨r', hr', -⟩ := bind_eq_ok_iff.1 h
  exact ⟨r', hr'⟩

/-! ### Walks to a directory -/

/-- A way is a walk for a directory. -/
theorem walk_of_follow {r : Location × Nat} (h : t.follow links dir ps = .ok r) :
    t.walk .node links dir ps = .ok (.existing r.1) := by
  fun_induction follow t links dir ps with
  | case1 links dir =>
    cases h
    rw [walk]
  | case2 links dir part ps hidle ih => exact (walk_of_isIdle hidle).trans (ih h)
  | case3 links dir ps hidle ih =>
    rw [walk, if_neg hidle, if_pos rfl]
    exact ih h
  | case4 | case5 | case7 | case8 => cases h
  | case6 links dir part ps hidle hup hlong mode hget ih =>
    rw [walk_of_isEntryName (isEntryName_of hidle hup hlong) rfl, hget]
    exact ih h
  | case9 dir part ps hidle hup hlong target hget links ih =>
    rw [walk_of_isEntryName (isEntryName_of hidle hup hlong) rfl, hget]
    refine (if_neg (by simp)).trans ?_
    exact ih h

/-- A walk to a directory is a way of all parts. -/
theorem walkDirectory_eq (t : FileTree) (dir : Location) (ps : List String) :
    t.walkDirectory dir ps = (t.follow linkLimit dir ps).map (·.1) := by
  have hlast : ∀ r : Location × Nat, t.walk .node r.2 r.1 [""] = .ok (.existing r.1) := by
    intro r
    rw [walk_of_isIdle rfl, walk]
  rw [walkDirectory, walk_append t (by simp) (by simp)]
  cases t.follow linkLimit dir ps with
  | error e => rfl
  | ok r =>
    rw [Except.bind, hlast]
    rfl

/-! ### The last part -/

section

variable {goal : Goal} {name : String}

/-- What a walk comes to at its last part. -/
theorem walk_singleton (hname : IsEntryName name) :
    t.walk goal links dir [name] = match t.get? (name :: dir) with
      | none => .ok (.absent dir name)
      | some (.directory _) | some (.file _ _) => .ok (.existing (name :: dir))
      | some (.link target) =>
        if goal = .entry then .ok (.existing (name :: dir))
        else
          match links with
          | 0 => .error .tooManyLinks
          | links + 1 => t.walk goal links (origin dir target) (parts target) := by
  rw [walk_of_isEntryName hname (by simp [isSlashes])]
  cases t.get? (name :: dir) with
  | none => rfl
  | some node =>
    cases node with
    | directory mode => exact walk.eq_1 ..
    | file bytes isExecutable => rfl
    | link target => simp

/-- A last part that a walk gets over is not too long for a name. -/
theorem isEntryName_of_walk (hidle : isIdle name = false) (hup : name ≠ "..") {place : Place}
    (h : t.walk goal links dir [name] = .ok place) : IsEntryName name := by
  refine ⟨hidle, hup, Nat.not_lt.1 fun hlong ↦ ?_⟩
  rw [walk, if_neg (Bool.eq_false_iff.1 hidle), if_neg hup, if_neg (by simp [isSlashes]),
    if_pos hlong] at h
  cases h

end

/-! ### Paths -/

/-- The way from where a path starts. -/
def way (t : FileTree) (p : FilePath) (ps : List String) : Except Errno (Location × Nat) :=
  t.follow linkLimit (origin t.workDir p.text) ps

section

variable {p : FilePath} {before : List String} {name : String} {r : Location × Nat}

/-- The way of a path along more parts is that along the first of them, and then the rest. -/
theorem way_append (t : FileTree) (p : FilePath) (ps rest : List String) :
    t.way p (ps ++ rest) = (t.way p ps).bind fun r ↦ t.follow r.2 r.1 rest :=
  t.follow_append linkLimit (origin t.workDir p.text) ps rest

/-- The way of a path stays on a tree that has all directories and links. -/
theorem way_of_hasWays (hways : HasWays t t') (hdir : t'.workDir = t.workDir)
    (h : t.way p ps = .ok r) : t'.way p ps = .ok r := by
  rw [way, hdir]
  exact follow_of_hasWays hways h

theorem ofWalk_eq_ok_iff {α : Type} {result : Except Errno α} {a : α} :
    ofWalk result = .ok a ↔ result = .ok a := by
  cases result with
  | ok a' => simp [ofWalk]
  | error e => simp [ofWalk]

/-- A call accepts a path if the path is not empty, is not too long and has no nul in it. -/
theorem checkPath_eq_ok_iff :
    checkPath p = .ok ps ↔ '\x00' ∉ p.text.toList ∧ p.text ≠ "" ∧
      p.text.utf8ByteSize ≤ pathLimit ∧ parts p.text = ps := by
  unfold checkPath
  by_cases hnul : '\x00' ∈ p.text.toList
  · simp [hnul]
  · by_cases hne : p.text = ""
    · simp [hne]
    · by_cases hsize : p.text.utf8ByteSize ≤ pathLimit
      · simp [hnul, hne, hsize, Nat.not_lt.2 hsize]
      · simp [hnul, hne, hsize, Nat.not_le.1 hsize]

/-- A path that passes the checks is walked along all its parts. -/
theorem eq_parts_of_checkPath (h : checkPath p = .ok ps) : ps = parts p.text :=
  (checkPath_eq_ok_iff.1 h).2.2.2.symm

/-- Where a path leads is told by the way to its last part, and that part. -/
theorem locate_eq {goal : Goal} (hcheck : checkPath p = .ok (before ++ [name]))
    (hname : isIdle name = false) :
    t.locate goal p =
      ofWalk ((t.way p before).bind fun r ↦ t.walk goal r.2 r.1 [name]) := by
  have hslash : isSlashes [name] = false := by
    simp [isSlashes, (isIdle_eq_false_iff.1 hname).1]
  rw [locate, hcheck]
  exact congrArg ofWalk <| t.walk_append (List.cons_ne_nil name []) (fun _ ↦ hslash) linkLimit
    (origin t.workDir p.text) before

/-- A path that leads somewhere says a way to its last part. -/
theorem exists_way_of_locate {goal : Goal} {place : Place}
    (hparts : parts p.text = before ++ [name]) (hname : isIdle name = false)
    (h : t.locate goal p = .ok place) :
    checkPath p = .ok (before ++ [name]) ∧ ∃ r, t.way p before = .ok r ∧
      t.walk goal r.2 r.1 [name] = .ok place := by
  obtain ⟨ps, hcheck, -⟩ := bind_eq_ok_iff.1 h
  rw [(eq_parts_of_checkPath hcheck).trans hparts] at hcheck
  rw [locate_eq hcheck hname, ofWalk_eq_ok_iff] at h
  exact ⟨hcheck, bind_eq_ok_iff.1 h⟩

/-- The last part that is not empty, where it is split off. -/
theorem splitLast_eq_some {rs : List String} {slash slash' : Bool}
    (h : splitLast rs slash = some (before, name, slash')) :
    name ≠ "" ∧ ∃ k, rs = List.replicate k "" ++ name :: before.reverse ∧
      slash' = (slash || decide (0 < k)) := by
  induction rs generalizing slash with
  | nil => cases h
  | cons part rs ih =>
    rw [splitLast] at h
    split at h
    · rename_i hpart
      obtain ⟨hne, k, rfl, rfl⟩ := ih h
      exact ⟨hne, k + 1, by rw [hpart]; rfl, by simp⟩
    · rename_i hpart
      obtain ⟨rfl, rfl, rfl⟩ : rs.reverse = before ∧ part = name ∧ slash = slash' := by
        simpa using h
      exact ⟨hpart, 0, by simp, by simp⟩

/-- What a path is about is told by the way to its last part that is not empty, and that part. -/
theorem slot_eq (hcheck : checkPath p = .ok ps) :
    t.slot p = match splitLast ps.reverse false with
      | none => .ok .special
      | some (before, last, slash) =>
        match t.way p before with
        | .error e => .error (.system e)
        | .ok r =>
          if last = "." || last = ".." then .ok .special
          else if nameLimit < last.utf8ByteSize then .error (.system .nameTooLong)
          else .ok (.entry r.1 last slash) := by
  have hdir : ∀ before, ofWalk (t.walkDirectory (origin t.workDir p.text) before) =
      ofWalk ((t.way p before).map (·.1)) :=
    fun before ↦ congrArg ofWalk (t.walkDirectory_eq _ before)
  rw [slot, hcheck]
  show (match splitLast ps.reverse false with
    | none => _
    | some (before, last, slash) => _ : Except HostError Slot) = _
  cases splitLast ps.reverse false with
  | none => rfl
  | some split =>
    obtain ⟨before, last, slash⟩ := split
    dsimp only
    rw [hdir]
    cases t.way p before with
    | error e => rfl
    | ok r => rfl

/-- The entry that a path is about is named by its last part that is not empty, in the directory
that the way to that part leads to. -/
theorem exists_way_of_slot {slash : Bool} (h : t.slot p = .ok (.entry dir name slash)) :
    IsEntryName name ∧ ∃ before k m, checkPath p = .ok (before ++ name :: List.replicate k "") ∧
      slash = decide (0 < k) ∧ t.way p before = .ok (dir, m) := by
  obtain ⟨ps, hcheck, -⟩ := bind_eq_ok_iff.1 h
  rw [slot_eq hcheck] at h
  split at h
  · cases h
  · rename_i before last slash' hsplit
    obtain ⟨hne, k, hps, hslash⟩ := splitLast_eq_some hsplit
    split at h
    · cases h
    · rename_i r hway
      split at h
      · cases h
      · rename_i hdots
        split at h
        · cases h
        · rename_i hlong
          obtain ⟨rfl, rfl, rfl⟩ : r.1 = dir ∧ last = name ∧ slash' = slash := by simpa using h
          rw [Bool.or_eq_true, decide_eq_true_eq, decide_eq_true_eq, not_or] at hdots
          refine ⟨⟨isIdle_eq_false_iff.2 ⟨hne, hdots.1⟩, hdots.2, Nat.not_lt.1 hlong⟩, before, k,
            r.2, ?_, hslash, hway⟩
          rw [hcheck, ← List.reverse_reverse ps, hps]
          simp

/-- Without a slash after it, the entry is named by the last part of the path. -/
theorem exists_way_of_slot_false (h : t.slot p = .ok (.entry dir name false)) :
    ∃ before m, checkPath p = .ok (before ++ [name]) ∧ t.way p before = .ok (dir, m) := by
  obtain ⟨-, before, k, m, hcheck, hk, hway⟩ := exists_way_of_slot h
  obtain rfl : k = 0 := by simpa using hk
  exact ⟨before, m, hcheck, hway⟩

/-- A path with a way to a last part is about the entry that this part names. -/
theorem slot_of_way {m : Nat} (hcheck : checkPath p = .ok (before ++ [name]))
    (hname : IsEntryName name) (hway : t.way p before = .ok (dir, m)) :
    t.slot p = .ok (.entry dir name false) := by
  have hidle := isIdle_eq_false_iff.1 hname.isIdle_eq
  have hsplit : splitLast (before ++ [name]).reverse false = some (before, name, false) := by
    rw [List.reverse_append, List.reverse_singleton, List.singleton_append, splitLast,
      if_neg hidle.1, List.reverse_reverse]
  rw [slot_eq hcheck, hsplit]
  dsimp only
  rw [hway]
  dsimp only
  rw [if_neg (by simp [hidle.2, hname.ne_up]), if_neg (Nat.not_lt.2 hname.size_le)]

end

end NetReconcile.FileTree
