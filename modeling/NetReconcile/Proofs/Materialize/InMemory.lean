import Mathlib.Logic.Basic
import NetReconcile.MemoryHost
import NetReconcile.Proofs.HostM
import NetReconcile.Proofs.Materialize.Steps

/-!
# Writing on a host in memory

On a host in memory every step of writing has one of three outcomes, and which of them can be told
before the step is taken: it fails and changes nothing, it finds its work done, or it does it.
`WriteStep.take_eq` says so, and what all steps come to follows by induction.

## Main definitions

* `MemoryHost.Written`: one host is reached from another by writes and links alone.
* `WriteStep.fault?`, `WriteStep.writes`, `WriteStep.after`: what a step comes to.

## Main statements

* `WriteStep.take_eq`: a step that fails changes nothing; one that does not leads to `after`.
* `WriteStep.written_of_takeAll_eq_ok`, `WriteStep.written_of_takeAll_eq_error`: whatever fails,
  only files and links change, and the answer tells whether a file was written.

## Two descriptions

`WriteStep.fault?`, `writes` and `after` are computed from the host on which the step is taken, so
they say exactly what it comes to, and the modules about convergence and about failures use them.
`Written` only says which parts of a host may have changed, and what the record has gained. It is
closed under sequences, and it is all that the stages after writing need to know.
-/

namespace NetReconcile

/-! ### The record of effects -/

namespace Effect

/-- Whether an effect is a write or a link. -/
def isOnFiles : Effect → Bool
  | write .. | link .. => true
  | run _ | broadcast _ => false

/-- The paths that are written in a stretch of the record. -/
def pathsWritten (done : List Effect) : List FilePath :=
  done.filterMap written?

@[simp]
theorem pathsWritten_nil : pathsWritten [] = [] :=
  rfl

@[simp]
theorem pathsWritten_append (d₁ d₂ : List Effect) :
    pathsWritten (d₁ ++ d₂) = pathsWritten d₁ ++ pathsWritten d₂ :=
  List.filterMap_append

/-- What is done to files and links runs no command. -/
theorem filterMap_command?_of_isOnFiles {done : List Effect} (h : ∀ e ∈ done, e.isOnFiles) :
    done.filterMap command? = [] := by
  refine List.filterMap_eq_nil_iff.2 fun e he ↦ ?_
  have hfiles := h e he
  cases e with
  | write | link => rfl
  | run | broadcast => cases hfiles

theorem filterMap_request?_of_isOnFiles {done : List Effect} (h : ∀ e ∈ done, e.isOnFiles) :
    done.filterMap request? = [] := by
  refine List.filterMap_eq_nil_iff.2 fun e he ↦ ?_
  have hfiles := h e he
  cases e with
  | write | link => rfl
  | run | broadcast => cases hfiles

end Effect

namespace MemoryHost

/-- One host is reached from another by writes and links alone, which `done` lists. -/
structure Written (done : List Effect) (h h' : MemoryHost) : Prop where
  host_eq : h' = { h with
    files := h'.files, links := h'.links, effects := h.effects ++ done, events := h'.events }
  isOnFiles : ∀ e ∈ done, e.isOnFiles

namespace Written

theorem refl (h : MemoryHost) : Written [] h h :=
  ⟨by simp, by simp⟩

/-- Writes and links that follow each other are writes and links. -/
theorem trans {d₁ d₂ : List Effect} {h₁ h₂ h₃ : MemoryHost} (h₁₂ : Written d₁ h₁ h₂)
    (h₂₃ : Written d₂ h₂ h₃) : Written (d₁ ++ d₂) h₁ h₃ := by
  refine ⟨?_, fun e he ↦ ?_⟩
  · rw [h₂₃.host_eq, h₁₂.host_eq]
    simp
  · rcases List.mem_append.1 he with he | he
    · exact h₁₂.isOnFiles e he
    · exact h₂₃.isOnFiles e he

variable {done : List Effect} {h h' : MemoryHost}

theorem effects_eq (w : Written done h h') : h'.effects = h.effects ++ done := by
  rw [w.host_eq]

theorem faults_eq (w : Written done h h') : h'.faults = h.faults := by
  rw [w.host_eq]

end Written

/-! ### Operations on files -/

/-- Reading changes nothing. It fails if a failure is arranged for the path, and reads what the path
leads to otherwise. -/
theorem read_eq (path : FilePath) (h : MemoryHost) :
    (FileStore.read path : HostM MemoryHost (Option String)) h =
      match h.faults.readsOf.get? path with
      | some message => .error (.reported message) h
      | none => .ok (h.textAt? path) h := by
  show EStateM.bind (failIf (h.faults.readsOf.get? path)) _ h = _
  cases h.faults.readsOf.get? path with
  | some message => rfl
  | none => rfl

/-- A write fails with what is arranged for its path, or else with what is arranged for all writes.
A write that fails is not recorded. -/
theorem write_eq (path : FilePath) (contents : String) (h : MemoryHost) :
    (FileStore.write path contents : HostM MemoryHost Unit) h =
      match (h.faults.writesTo.get? path).or h.faults.writes with
      | some message => .error (.reported message) h
      | none => .ok () (h.stored path contents) := by
  show EStateM.bind (failIf (h.faults.writesTo.get? path)) _ h = _
  cases h.faults.writesTo.get? path with
  | some message => rfl
  | none =>
    show EStateM.bind (failIf h.faults.writes) _ h = _
    cases h.faults.writes with
    | some message => rfl
    | none => rfl

/-- Links are made or fail, all of them alike. -/
theorem link_eq (target path : FilePath) (h : MemoryHost) :
    (FileStore.link target path : HostM MemoryHost Unit) h =
      match h.faults.links with
      | some message => .error (.reported message) h
      | none => .ok () (h.linked target path) := by
  show EStateM.bind (failIf h.faults.links) _ h = _
  cases h.faults.links with
  | some message => rfl
  | none => rfl

end MemoryHost

/-! ### One step -/

open MemoryHost

section

variable {path : FilePath} {contents : String} {h : MemoryHost}

/-- Reading comes first, and a file that holds its text is not written. -/
theorem converge_of_eq (hread : h.faults.readsOf.get? path = none)
    (htext : h.textAt? path = some contents) : converge path contents h = .ok false h := by
  have hr : (FileStore.read path : HostM MemoryHost (Option String)) h = .ok (some contents) h := by
    rw [read_eq, hread, htext]
  rw [converge, bind_of_ok (within_of_ok hr), if_pos rfl]
  rfl

/-- A file that holds another text, or that is not there, is written. -/
theorem converge_of_ne (hread : h.faults.readsOf.get? path = none)
    (htext : h.textAt? path ≠ some contents) :
    converge path contents h =
      match (h.faults.writesTo.get? path).or h.faults.writes with
      | some message => .error (.reported message) h
      | none => .ok true (h.stored path contents) := by
  have hr : (FileStore.read path : HostM MemoryHost (Option String)) h =
      .ok (h.textAt? path) h := by
    rw [read_eq, hread]
  rw [converge, bind_of_ok (within_of_ok hr), if_neg htext]
  have hw := write_eq path contents h
  cases hf : (h.faults.writesTo.get? path).or h.faults.writes with
  | some message =>
    rw [hf] at hw
    exact bind_of_error hw
  | none =>
    rw [hf] at hw
    exact bind_of_ok hw

/-- A file that cannot be read is not written. -/
theorem converge_of_fault {message : String}
    (hread : h.faults.readsOf.get? path = some message) :
    converge path contents h = .error (.during (.readFile path) (.reported message)) h := by
  have hr : (FileStore.read path : HostM MemoryHost (Option String)) h =
      .error (.reported message) h := by
    rw [read_eq, hread]
  exact bind_of_error (within_of_error hr)

end

namespace WriteStep

/-- Whether a step finds a file whose text has to be written. -/
def writes (h : MemoryHost) : WriteStep → Bool
  | converge file => h.textAt? file.path ≠ some file.contents
  | link .. => false

/-- Why a step fails, if it does. -/
def fault? (h : MemoryHost) : WriteStep → Option HostError
  | converge file =>
    match h.faults.readsOf.get? file.path with
    | some message =>
      some (.during (.writeFile file.path) (.during (.readFile file.path) (.reported message)))
    | none =>
      if (converge file).writes h then
        ((h.faults.writesTo.get? file.path).or h.faults.writes).map fun message ↦
          .during (.writeFile file.path) (.reported message)
      else none
  | link target path =>
    h.faults.links.map fun message ↦ .during (.linkPaths path target) (.reported message)

/-- The host after a step that does not fail. -/
def after (h : MemoryHost) : WriteStep → MemoryHost
  | converge file =>
    if (converge file).writes h then
      Station.report (.fileUpdated file.path) (h.stored file.path file.contents)
    else h
  | link target path => h.linked target path

theorem take_link_eq (target path : FilePath) (h : MemoryHost) :
    (link target path).take h = match (link target path).fault? h with
      | some e => .error e h
      | none => .ok false (h.linked target path) := by
  have hl := link_eq target path h
  rw [fault?]
  cases hf : h.faults.links with
  | some message =>
    rw [hf] at hl
    exact bind_of_error (within_of_error hl)
  | none =>
    rw [hf] at hl
    exact bind_of_ok (within_of_ok hl)

theorem take_converge_eq (file : ConfigFile) (h : MemoryHost) :
    (converge file).take h = match (converge file).fault? h with
      | some e => .error e h
      | none => .ok ((converge file).writes h) ((converge file).after h) := by
  show file.converge h = _
  rw [fault?, after]
  cases hread : h.faults.readsOf.get? file.path with
  | some message => exact bind_of_error (within_of_error (converge_of_fault hread))
  | none =>
    by_cases htext : h.textAt? file.path = some file.contents
    · have hwrites : (converge file).writes h = false := by simp [writes, htext]
      rw [hwrites]
      exact bind_of_ok (within_of_ok (converge_of_eq hread htext))
    · have hwrites : (converge file).writes h = true := by simp [writes, htext]
      rw [hwrites]
      have hc := converge_of_ne hread htext
      cases hf : (h.faults.writesTo.get? file.path).or h.faults.writes with
      | some message =>
        rw [hf] at hc
        exact bind_of_error (within_of_error hc)
      | none =>
        rw [hf] at hc
        exact bind_of_ok (within_of_ok hc)

/-- A step that fails changes nothing; one that does not leads to `after`. -/
theorem take_eq (s : WriteStep) (h : MemoryHost) :
    s.take h = match s.fault? h with
      | some e => .error e h
      | none => .ok (s.writes h) (s.after h) := by
  cases s with
  | converge file => exact take_converge_eq file h
  | link target path => exact take_link_eq target path h

/-- A step adds one effect on files to the record, or nothing. -/
theorem exists_written_after (s : WriteStep) (h : MemoryHost) :
    ∃ done, Written done h (s.after h) ∧ (s.writes h = true ↔ Effect.pathsWritten done ≠ []) := by
  cases s with
  | converge file =>
    by_cases hw : (converge file).writes h = true
    · rw [after, if_pos hw]
      exact ⟨[.write file.path file.contents], ⟨rfl, by simp [Effect.isOnFiles]⟩,
        by simp [hw, Effect.pathsWritten, Effect.written?]⟩
    · rw [after, if_neg hw]
      exact ⟨[], Written.refl h, by simp [hw]⟩
  | link target path =>
    exact ⟨[.link target path], ⟨rfl, by simp [Effect.isOnFiles]⟩,
      by simp [writes, Effect.pathsWritten, Effect.written?]⟩

/-! ### All steps -/

section

variable {s : WriteStep} {ss : List WriteStep} {h h' : MemoryHost} {changed : Bool} {e : HostError}

/-- A step that fails is the last one. -/
theorem takeAll_cons_of_fault (hf : s.fault? h = some e) : takeAll (s :: ss) h = .error e h :=
  bind_of_error (by rw [take_eq, hf])

/-- After a step that does not fail come the others. -/
theorem takeAll_cons_of_no_fault (hf : s.fault? h = none) :
    takeAll (s :: ss) h = match takeAll ss (s.after h) with
      | .ok rest h' => .ok (s.writes h || rest) h'
      | .error e h' => .error e h' := by
  have htake : s.take h = .ok (s.writes h) (s.after h) := by
    rw [take_eq, hf]
  rw [takeAll, bind_of_ok htake]
  cases hrest : takeAll ss (s.after h) with
  | ok rest h' => exact bind_of_ok hrest
  | error e h' => exact bind_of_error hrest

/-- When all steps are taken, only files and links have changed, and the answer tells whether a file
was written. -/
theorem written_of_takeAll_eq_ok (hrun : takeAll ss h = .ok changed h') :
    ∃ done, Written done h h' ∧ (changed = true ↔ Effect.pathsWritten done ≠ []) := by
  induction ss generalizing h changed with
  | nil =>
    obtain ⟨rfl, rfl⟩ : false = changed ∧ h = h' := by
      simpa [takeAll, pure, EStateM.pure] using hrun
    exact ⟨[], Written.refl h, by simp⟩
  | cons s ss ih =>
    cases hf : s.fault? h with
    | some e => simp [takeAll_cons_of_fault hf] at hrun
    | none =>
      rw [takeAll_cons_of_no_fault hf] at hrun
      cases hrest : takeAll ss (s.after h) with
      | error e h₁ => simp [hrest] at hrun
      | ok rest h₁ =>
        obtain ⟨rfl, rfl⟩ : (s.writes h || rest) = changed ∧ h₁ = h' := by
          simpa [hrest] using hrun
        -- `or` of the answers against `++` of the records: both parts tell whether they wrote
        obtain ⟨first, hfirst, hwrites⟩ := exists_written_after s h
        obtain ⟨second, hsecond, hrest⟩ := ih hrest
        refine ⟨first ++ second, hfirst.trans hsecond, ?_⟩
        rw [Bool.or_eq_true, hwrites, hrest, Effect.pathsWritten_append, ne_eq, ne_eq, ne_eq,
          List.append_eq_nil_iff, not_and_or]

/-- When a step fails, only files and links have changed. -/
theorem written_of_takeAll_eq_error (hrun : takeAll ss h = .error e h') :
    ∃ done, Written done h h' := by
  induction ss generalizing h with
  | nil => simp [takeAll, pure, EStateM.pure] at hrun
  | cons s ss ih =>
    cases hf : s.fault? h with
    | some e' =>
      obtain ⟨-, rfl⟩ : e' = e ∧ h = h' := by
        simpa [takeAll_cons_of_fault hf] using hrun
      exact ⟨[], Written.refl h⟩
    | none =>
      rw [takeAll_cons_of_no_fault hf] at hrun
      cases hrest : takeAll ss (s.after h) with
      | ok rest h₁ => simp [hrest] at hrun
      | error e' h₁ =>
        obtain ⟨rfl, rfl⟩ : e' = e ∧ h₁ = h' := by
          simpa [hrest] using hrun
        obtain ⟨first, hfirst, -⟩ := exists_written_after s h
        obtain ⟨second, hsecond⟩ := ih hrest
        exact ⟨first ++ second, hfirst.trans hsecond⟩

end

end WriteStep

/-! ### Writing a set of configurations -/

namespace ConfigPaths

variable {paths : ConfigPaths} {cs : InterfaceConfigs} {h h' : MemoryHost}

/-- Writing a set of configurations changes files and links only, and says whether a file was
written. -/
theorem written_of_write_eq_ok {changed : Bool} (hw : paths.write cs h = .ok changed h') :
    ∃ done, Written done h h' ∧ (changed = true ↔ Effect.pathsWritten done ≠ []) := by
  rw [write_eq_takeAll] at hw
  exact WriteStep.written_of_takeAll_eq_ok hw

/-- Before it fails, writing has changed files and links only. -/
theorem written_of_write_eq_error {e : HostError} (hw : paths.write cs h = .error e h') :
    ∃ done, Written done h h' := by
  rw [write_eq_takeAll] at hw
  exact WriteStep.written_of_takeAll_eq_error hw

end ConfigPaths

end NetReconcile
