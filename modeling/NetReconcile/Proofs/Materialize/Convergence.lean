import NetReconcile.Proofs.Materialize.InMemory

/-!
# What writing converges to

On a host on which nothing is arranged to fail all steps of writing are taken. If their files are
different paths, none of which is a link, then no step undoes the work of another: every file holds
its text in the end, files that no step is about are as they were, and only files that did not hold
their text were written. Taking the steps again then finds all work done.

## Main definitions

* `WriteStep.Apart`: no two files of a list of steps are the same path, and none of them is a link.
* `WriteStep.Done`: the work of a step has been done.

## Main statements

* `WriteStep.takeAll_of_faultFree`: without faults all steps are taken.
* `WriteStep.files_afterAll_of_mem`, `WriteStep.files_afterAll_of_not_same`,
  `WriteStep.links_afterAll`, `WriteStep.writes_afterAll`: what they come to.
* `WriteStep.textAt?_afterAll_concat`: the last file holds its text whatever the others are.
* `WriteStep.done_afterAll`, `WriteStep.takeAll_of_done`: taking them again writes nothing.

## The invariant

All statements about the whole list are by induction on it, with the host generalized, and `Apart`
is what carries them. It speaks of the host on which the steps are still to be taken and of these
steps alone, and `Apart.tail` says that the first step keeps it for the others: a file that is
written makes no link, and a link that is made is not the path of a later file. What later files
hold is not touched by the step before them, which is `Apart.textAt?_after`.
-/

namespace NetReconcile

open MemoryHost

namespace WriteStep

/-! ### Without faults -/

/-- The host after all steps, if none of them fails. -/
def afterAll (h : MemoryHost) (ss : List WriteStep) : MemoryHost :=
  ss.foldl after h

@[simp]
theorem afterAll_nil (h : MemoryHost) : afterAll h [] = h :=
  rfl

@[simp]
theorem afterAll_cons (h : MemoryHost) (s : WriteStep) (ss : List WriteStep) :
    afterAll h (s :: ss) = afterAll (s.after h) ss :=
  rfl

section

variable {s : WriteStep} {ss : List WriteStep} {h : MemoryHost}

/-- Where nothing is arranged to fail, no step does. -/
theorem fault?_of_faultFree (hf : h.FaultFree) : s.fault? h = none := by
  cases s with
  | converge file => simp [fault?, hf.faults_eq]
  | link target path => simp [fault?, hf.faults_eq]

theorem faultFree_after (hf : h.FaultFree) : (s.after h).FaultFree := by
  obtain ⟨done, hwritten, -⟩ := exists_written_after s h
  exact hwritten.faults_eq.trans hf

/-- All steps together only write and link. -/
theorem exists_written_afterAll (ss : List WriteStep) (h : MemoryHost) :
    ∃ done, Written done h (afterAll h ss) := by
  induction ss generalizing h with
  | nil => exact ⟨[], Written.refl h⟩
  | cons s ss ih =>
    obtain ⟨first, hfirst, -⟩ := exists_written_after s h
    obtain ⟨rest, hrest⟩ := ih (s.after h)
    exact ⟨first ++ rest, hfirst.trans hrest⟩

/-- Without faults all steps are taken. -/
theorem takeAll_of_faultFree (hf : h.FaultFree) :
    ∃ changed, takeAll ss h = .ok changed (afterAll h ss) := by
  induction ss generalizing h with
  | nil => exact ⟨false, rfl⟩
  | cons s ss ih =>
    obtain ⟨rest, hrest⟩ := ih (faultFree_after (s := s) hf)
    refine ⟨s.writes h || rest, ?_⟩
    rw [takeAll_cons_of_no_fault (fault?_of_faultFree hf), hrest, afterAll_cons]

/-- Making a file hold its text, whether or not it has to be written, is setting it. -/
theorem files_after_converge (file : ConfigFile) (hf : h.FaultFree)
    (hlink : h.links.get? file.path = none) (p : FilePath) :
    ((converge file).after h).files.get? p =
      if file.path.same p then some file.contents else h.files.get? p := by
  rw [after]
  split
  · show (if h.faults.discards.any (·.same file.path) then h.files
      else h.files.set file.path file.contents).get? p = _
    rw [hf.faults_eq]
    exact PathMap.get?_set h.files file.path p file.contents
  · -- the file was not written because it holds its text, so setting it would change nothing
    rename_i hw
    have htext : h.files.get? file.path = some file.contents := by
      simpa [writes, textAt?, hlink] using hw
    split
    · rename_i hp
      rw [← htext, PathMap.get?_congr _ hp]
    · rfl

/-- A step that writes writes the path of its file. -/
theorem writes_after (s : WriteStep) (h : MemoryHost) :
    (s.after h).writes =
      h.writes ++ if s.writes h then (s.file?.map (·.path)).toList else [] := by
  cases s with
  | converge file =>
    rw [after]
    split
    · exact List.filterMap_append
    · exact (List.append_nil _).symm
  | link target path => exact List.filterMap_append

/-- Writing a file makes no link. -/
theorem links_after_converge (file : ConfigFile) (h : MemoryHost) :
    ((converge file).after h).links = h.links := by
  rw [after]
  split <;> rfl

end

/-! ### Steps that are apart -/

/-- No two files of a list of steps are the same path, and none of them is a link or is made one. -/
structure Apart (h : MemoryHost) (ss : List WriteStep) : Prop where
  distinct : (ss.filterMap file?).Pairwise fun f g ↦ f.path.same g.path = false
  unlinked : ∀ f ∈ ss.filterMap file?, h.links.get? f.path = none
  notLink : ∀ f ∈ ss.filterMap file?, ∀ p ∈ ss.filterMap link?, p.same f.path = false

section

variable {s : WriteStep} {ss : List WriteStep} {h : MemoryHost} {file : ConfigFile}

theorem mem_files_cons_of_mem {f : ConfigFile} (hf : f ∈ ss.filterMap file?) :
    f ∈ (s :: ss).filterMap file? := by
  rw [List.filterMap_cons]
  cases s.file? with
  | none => exact hf
  | some _ => exact List.mem_cons_of_mem _ hf

theorem mem_links_cons_of_mem {p : FilePath} (hp : p ∈ ss.filterMap link?) :
    p ∈ (s :: ss).filterMap link? := by
  rw [List.filterMap_cons]
  cases s.link? with
  | none => exact hp
  | some _ => exact List.mem_cons_of_mem _ hp

/-- The first file is no link when its turn comes. -/
theorem Apart.head_unlinked (ha : Apart h (converge file :: ss)) :
    h.links.get? file.path = none :=
  ha.unlinked file List.mem_cons_self

/-- No later file is the same path as the first one. -/
theorem Apart.head_not_same (ha : Apart h (converge file :: ss)) {f : ConfigFile}
    (hf : f ∈ ss.filterMap file?) : file.path.same f.path = false :=
  (List.pairwise_cons.1 ha.distinct).1 f hf

/-- Steps that are apart are still so after the first of them has been taken. -/
theorem Apart.tail (ha : Apart h (s :: ss)) : Apart (s.after h) ss := by
  refine ⟨?_, fun f hf ↦ ?_, fun f hf p hp ↦ ?_⟩
  · cases s with
    | converge file => exact (List.pairwise_cons.1 ha.distinct).2
    | link target path => exact ha.distinct
  · have hold := ha.unlinked f (mem_files_cons_of_mem hf)
    cases s with
    | converge file => rw [links_after_converge, hold]
    | link target path =>
      have hne : path.same f.path = false := ha.notLink f hf path List.mem_cons_self
      show (h.links.set path target).get? f.path = none
      rw [PathMap.get?_set_of_not_same _ _ hne, hold]
  · exact ha.notLink f (mem_files_cons_of_mem hf) p (mem_links_cons_of_mem hp)

/-- A step leaves alone what the files of later steps hold. -/
theorem Apart.textAt?_after (hf : h.FaultFree) (ha : Apart h (s :: ss)) {f : ConfigFile}
    (hmem : f ∈ ss.filterMap file?) : (s.after h).textAt? f.path = h.textAt? f.path := by
  have hold := ha.unlinked f (mem_files_cons_of_mem hmem)
  have hnew := ha.tail.unlinked f hmem
  rw [textAt?, textAt?, hold, hnew]
  cases s with
  | converge file =>
    rw [files_after_converge file hf ha.head_unlinked, if_neg]
    simp [ha.head_not_same hmem]
  | link target path => rfl

end

/-! ### What the steps come to -/

section

variable {ss : List WriteStep} {h : MemoryHost}

/-- Files that no step is about are as they were. -/
theorem files_afterAll_of_not_same (hf : h.FaultFree) (ha : Apart h ss) {p : FilePath}
    (hp : ∀ f ∈ ss.filterMap file?, f.path.same p = false) :
    (afterAll h ss).files.get? p = h.files.get? p := by
  induction ss generalizing h with
  | nil => rfl
  | cons s ss ih =>
    rw [afterAll_cons, ih (faultFree_after hf) ha.tail fun f hmem ↦
      hp f (mem_files_cons_of_mem hmem)]
    cases s with
    | converge file =>
      rw [files_after_converge file hf ha.head_unlinked, if_neg]
      simp [hp file List.mem_cons_self]
    | link target path => rfl

/-- Every file holds its text. -/
theorem files_afterAll_of_mem (hf : h.FaultFree) (ha : Apart h ss) {f : ConfigFile}
    (hmem : f ∈ ss.filterMap file?) :
    (afterAll h ss).files.get? f.path = some f.contents := by
  induction ss generalizing h with
  | nil => cases hmem
  | cons s ss ih =>
    rw [afterAll_cons]
    cases s with
    | link target path => exact ih (faultFree_after hf) ha.tail hmem
    | converge file =>
      rcases List.mem_cons.1 hmem with rfl | hmem
      · -- no later step is about this file, so it keeps the text that it has got
        rw [files_afterAll_of_not_same (faultFree_after hf) ha.tail,
          files_after_converge f hf ha.head_unlinked, if_pos f.path.same_refl]
        intro g hg
        rw [FilePath.same_comm]
        exact ha.head_not_same hg
      · exact ih (faultFree_after hf) ha.tail hmem

/-- The links are the old ones, but for those that the steps are about. -/
theorem links_afterAll {t : FilePath} (ht : ∀ target path, link target path ∈ ss → target = t)
    (p : FilePath) :
    (afterAll h ss).links.get? p =
      if ∃ q ∈ ss.filterMap link?, q.same p = true then some t else h.links.get? p := by
  induction ss generalizing h with
  | nil => simp
  | cons s ss ih =>
    rw [afterAll_cons, ih fun target path hmem ↦ ht target path (List.mem_cons_of_mem _ hmem)]
    cases s with
    | converge file => rw [links_after_converge]; rfl
    | link target path =>
      obtain rfl := ht target path List.mem_cons_self
      have hlinks : ((link target path).after h).links = h.links.set path target := rfl
      have hcons : (link target path :: ss).filterMap link? = path :: ss.filterMap link? := rfl
      rw [hlinks, hcons, PathMap.get?_set]
      simp only [List.mem_cons, exists_eq_or_imp]
      by_cases hp : path.same p = true
      · simp only [hp, true_or, if_true, ite_self]
      · simp only [hp, Bool.false_eq_true, false_or, if_false]

/-- The files that are written are those that did not hold their text, in order. -/
theorem writes_afterAll (hf : h.FaultFree) (ha : Apart h ss) :
    (afterAll h ss).writes = h.writes ++
      ((ss.filterMap file?).filter fun f ↦ h.textAt? f.path ≠ some f.contents).map (·.path) := by
  induction ss generalizing h with
  | nil => simp
  | cons s ss ih =>
    -- which of the later files are written can be told from the host before the first step
    have hrest : (ss.filterMap file?).filter
          (fun f ↦ decide ((s.after h).textAt? f.path ≠ some f.contents)) =
        (ss.filterMap file?).filter fun f ↦ h.textAt? f.path ≠ some f.contents :=
      List.filter_congr fun f hmem ↦ by rw [ha.textAt?_after hf hmem]
    rw [afterAll_cons, ih (faultFree_after hf) ha.tail, hrest, writes_after]
    cases s with
    | converge file =>
      rw [show (converge file :: ss).filterMap file? = file :: ss.filterMap file? from rfl,
        List.filter_cons]
      by_cases htext : h.textAt? file.path = some file.contents
      · simp [writes, htext]
      · simp [writes, htext, file?]
    | link target path =>
      rw [show (link target path :: ss).filterMap file? = ss.filterMap file? from rfl]
      simp [writes]

end

/-! ### The last step -/

section

variable {ss : List WriteStep} {h : MemoryHost} {file : ConfigFile} {t : FilePath}

theorem afterAll_append (h : MemoryHost) (ss ts : List WriteStep) :
    afterAll h (ss ++ ts) = afterAll (afterAll h ss) ts :=
  List.foldl_append

/-- Nothing is arranged to fail after any number of steps either. -/
theorem faultFree_afterAll (hf : h.FaultFree) : (afterAll h ss).FaultFree := by
  obtain ⟨done, hwritten⟩ := exists_written_afterAll ss h
  exact hwritten.faults_eq.trans hf

/-- The file of the last step holds its text even where it is also the file of an earlier step. -/
theorem textAt?_afterAll_concat (hf : h.FaultFree)
    (ht : ∀ target path, link target path ∈ ss → target = t)
    (hlink : h.links.get? file.path = none)
    (hnot : ∀ p ∈ ss.filterMap link?, p.same file.path = false) :
    (afterAll h (ss ++ [converge file])).textAt? file.path = some file.contents := by
  have hbefore : (afterAll h ss).links.get? file.path = none := by
    rw [links_afterAll ht, if_neg, hlink]
    rintro ⟨q, hq, hsame⟩
    rw [hnot q hq] at hsame
    cases hsame
  rw [afterAll_append, afterAll_cons, afterAll_nil, textAt?, links_after_converge, hbefore,
    Option.getD_none, files_after_converge file (faultFree_afterAll hf) hbefore,
    if_pos file.path.same_refl]

end

/-! ### Taking the steps again -/

/-- The work of a step has been done. -/
def Done (h : MemoryHost) : WriteStep → Prop
  | converge file => h.textAt? file.path = some file.contents
  | link target path => h.links.get? path = some target

section

variable {s : WriteStep} {ss : List WriteStep} {h : MemoryHost}

/-- Steps that are apart leave the work of all of them done. -/
theorem done_afterAll {t : FilePath} (hf : h.FaultFree) (ha : Apart h ss)
    (ht : ∀ target path, link target path ∈ ss → target = t) (hs : s ∈ ss) :
    s.Done (afterAll h ss) := by
  cases s with
  | converge file =>
    have hmem : file ∈ ss.filterMap file? := List.mem_filterMap.2 ⟨converge file, hs, rfl⟩
    have hlink : (afterAll h ss).links.get? file.path = none := by
      rw [links_afterAll ht, if_neg, ha.unlinked file hmem]
      rintro ⟨q, hq, hsame⟩
      rw [ha.notLink file hmem q hq] at hsame
      cases hsame
    show (afterAll h ss).textAt? file.path = some file.contents
    rw [textAt?, hlink]
    exact files_afterAll_of_mem hf ha hmem
  | link target path =>
    have hmem : path ∈ ss.filterMap link? := List.mem_filterMap.2 ⟨link target path, hs, rfl⟩
    show (afterAll h ss).links.get? path = some target
    rw [links_afterAll ht, if_pos ⟨path, hmem, path.same_refl⟩, ht target path hs]

/-- A step whose work is done changes nothing but the record, and writes nothing. -/
theorem after_of_done (hd : s.Done h) :
    ∃ done, s.after h = { h with effects := h.effects ++ done } ∧ (∀ e ∈ done, e.isOnFiles) ∧
      Effect.pathsWritten done = [] ∧ s.writes h = false := by
  cases s with
  | converge file =>
    have hd : h.textAt? file.path = some file.contents := hd
    have hw : (converge file).writes h = false := by simp [writes, hd]
    refine ⟨[], ?_, by simp, rfl, hw⟩
    rw [after, hw, List.append_nil]
    rfl
  | link target path =>
    refine ⟨[.link target path], ?_, by simp [Effect.isOnFiles], rfl, rfl⟩
    show { h with
      links := h.links.set path target, effects := h.effects ++ [Effect.link target path] } = _
    rw [PathMap.set_eq_self hd]

/-- Whether the work of a step is done hangs on files and links alone. -/
theorem Done.congr {k : MemoryHost} (hd : s.Done h) (hfiles : k.files = h.files)
    (hlinks : k.links = h.links) : s.Done k := by
  cases s with
  | converge file =>
    show k.textAt? file.path = some file.contents
    rw [textAt?, hfiles, hlinks]
    exact hd
  | link target path =>
    show k.links.get? path = some target
    rw [hlinks]
    exact hd

/-- Steps whose work is done change nothing but the record, and write nothing. -/
theorem takeAll_of_done (hf : h.FaultFree) (hd : ∀ s ∈ ss, s.Done h) :
    ∃ done, takeAll ss h = .ok false { h with effects := h.effects ++ done } ∧
      (∀ e ∈ done, e.isOnFiles) ∧ Effect.pathsWritten done = [] := by
  induction ss generalizing h with
  | nil => exact ⟨[], by rw [List.append_nil]; rfl, by simp, rfl⟩
  | cons s ss ih =>
    -- `after_of_done` keeps files and links, so the work of the later steps is still done
    obtain ⟨first, hafter, hfiles, hpaths, hwrites⟩ := after_of_done (hd s List.mem_cons_self)
    have hf' : (s.after h).FaultFree := faultFree_after hf
    have hd' : ∀ t ∈ ss, t.Done (s.after h) := by
      intro t ht
      rw [hafter]
      exact (hd t (List.mem_cons_of_mem _ ht)).congr rfl rfl
    obtain ⟨rest, hrest, hfiles', hpaths'⟩ := ih hf' hd'
    refine ⟨first ++ rest, ?_, fun e he ↦ ?_, ?_⟩
    · rw [takeAll_cons_of_no_fault (fault?_of_faultFree hf), hrest, hwrites, hafter,
        List.append_assoc]
      rfl
    · exact (List.mem_append.1 he).elim (hfiles e) (hfiles' e)
    · rw [Effect.pathsWritten_append, hpaths, hpaths', List.append_nil]

end

end WriteStep

end NetReconcile
