import NetReconcile.Proofs.Materialize.Convergence

/-!
# Writing when something fails

Writing takes its steps in order, up to the first that fails. Which steps fail, and with which
message, is told by what is arranged on the host and by what the steps before have left there. So it
can be said of any host and any arrangement of failures what writing comes to: all steps are taken,
or those before the first one that fails, and nothing of that one or of a later one.

## Main definitions

* `WriteStep.effects`: what steps add to the record of a host.
* `WriteStep.Unhindered`: none of the steps fails.
* `WriteStep.arranged?`, `WriteStep.complaint`: why a step fails, and what is said of it.
* `ConfigPaths.FollowsRender`: what writing comes to, in terms of what is rendered.

## Main statements

* `WriteStep.takeAll_eq_ok_iff`, `WriteStep.takeAll_eq_error_iff`: taking steps.
* `ConfigPaths.followsRender_write`: writing a set of configurations.

## What an error says

An error is a cause inside activities, and its text is put together from both. `complaint` is
written out here word by word, and with it the text of every error is told apart from how errors are
made: it says which path could not be written, or which link could not be made to which target, and
ends with the message that was arranged. That these are the words of the program is
`WriteStep.message_fault?`.
-/

namespace NetReconcile

open MemoryHost

/-! ### The wording of failures -/

namespace HostError

variable (path target : FilePath) (cause : HostError)

theorem message_reported (message : String) : (reported message).message = message :=
  rfl

theorem message_during_readFile :
    (during (.readFile path) cause).message =
      "unable to read " ++ path.text ++ ": " ++ cause.message :=
  rfl

theorem message_during_writeFile :
    (during (.writeFile path) cause).message =
      "unable to write " ++ path.text ++ ": " ++ cause.message :=
  rfl

theorem message_during_linkPaths :
    (during (.linkPaths path target) cause).message =
      "unable to link " ++ path.text ++ " to " ++ target.text ++ ": " ++ cause.message :=
  rfl

end HostError

namespace WriteStep

variable {s : WriteStep} {ss before rest : List WriteStep} {h h' : MemoryHost} {changed : Bool}
  {e : HostError}

/-! ### The record -/

/-- What a step adds to the record of a host, unless it fails. -/
def effect? (h : MemoryHost) : WriteStep → Option Effect
  | converge file =>
    if (converge file).writes h then some (.write file.path file.contents) else none
  | link target path => some (.link target path)

/-- What steps add to the record of a host, if none of them fails. -/
def effects (h : MemoryHost) : List WriteStep → List Effect
  | [] => []
  | s :: ss => (s.effect? h).toList ++ effects (s.after h) ss

/-- A step adds to the record what it does. -/
theorem effects_after (s : WriteStep) (h : MemoryHost) :
    (s.after h).effects = h.effects ++ (s.effect? h).toList := by
  cases s with
  | converge file =>
    rw [after, effect?]
    split
    · rfl
    · exact (List.append_nil _).symm
  | link target path => rfl

/-- Steps add what each of them does, one after the other. -/
theorem effects_afterAll (h : MemoryHost) (ss : List WriteStep) :
    (afterAll h ss).effects = h.effects ++ effects h ss := by
  induction ss generalizing h with
  | nil => exact (List.append_nil _).symm
  | cons s ss ih => rw [afterAll_cons, ih, effects_after, effects, List.append_assoc]

/-- The answer of a step tells whether it wrote a file. -/
theorem writes_eq_true_iff (s : WriteStep) (h : MemoryHost) :
    s.writes h = true ↔ Effect.pathsWritten (s.effect? h).toList ≠ [] := by
  cases s with
  | converge file =>
    rw [effect?]
    split
    · rename_i hw
      simp [hw, Effect.pathsWritten, Effect.written?]
    · rename_i hw
      simp [hw]
  | link target path => simp [writes, effect?, Effect.pathsWritten, Effect.written?]

/-! ### Steps that fail -/

/-- None of the steps fails when those before it have been taken. -/
def Unhindered (h : MemoryHost) (ss : List WriteStep) : Prop :=
  ∀ before s rest, ss = before ++ s :: rest → s.fault? (afterAll h before) = none

theorem unhindered_nil (h : MemoryHost) : Unhindered h [] := by
  intro before s rest hsplit
  simp at hsplit

/-- The first step does not fail, and the others do not after it. -/
theorem unhindered_cons_iff :
    Unhindered h (s :: ss) ↔ s.fault? h = none ∧ Unhindered (s.after h) ss := by
  constructor
  · intro hu
    refine ⟨hu [] s ss rfl, fun before s' rest hsplit ↦ ?_⟩
    exact hu (s :: before) s' rest (congrArg (s :: ·) hsplit)
  · rintro ⟨hs, hu⟩ before s' rest hsplit
    cases before with
    | nil =>
      obtain ⟨rfl, rfl⟩ := List.cons.inj hsplit
      exact hs
    | cons b before =>
      obtain ⟨rfl, hsplit'⟩ := List.cons.inj hsplit
      exact hu before s' rest hsplit'

/-- Steps that do not fail are all taken. -/
theorem takeAll_of_unhindered (hu : Unhindered h ss) :
    ∃ changed, takeAll ss h = .ok changed (afterAll h ss) ∧
      (changed = true ↔ Effect.pathsWritten (effects h ss) ≠ []) := by
  induction ss generalizing h with
  | nil => exact ⟨false, rfl, by simp [effects]⟩
  | cons s ss ih =>
    obtain ⟨hs, hu⟩ := unhindered_cons_iff.1 hu
    obtain ⟨rest, hrest, hwrites⟩ := ih hu
    refine ⟨s.writes h || rest, ?_, ?_⟩
    · rw [takeAll_cons_of_no_fault hs, hrest, afterAll_cons]
    · rw [Bool.or_eq_true, writes_eq_true_iff, hwrites, effects, Effect.pathsWritten_append, ne_eq,
        ne_eq, ne_eq, List.append_eq_nil_iff, not_and_or]

/-- The first step that fails ends the taking of steps, after those before it. -/
theorem takeAll_of_fault (hu : Unhindered h before)
    (hs : s.fault? (afterAll h before) = some e) :
    takeAll (before ++ s :: rest) h = .error e (afterAll h before) := by
  induction before generalizing h with
  | nil => exact takeAll_cons_of_fault hs
  | cons b before ih =>
    obtain ⟨hb, hu⟩ := unhindered_cons_iff.1 hu
    rw [List.cons_append, takeAll_cons_of_no_fault hb, ih hu hs]
    rfl

/-- Either no step fails or there is a first one that does. -/
theorem unhindered_or_exists_fault (h : MemoryHost) (ss : List WriteStep) :
    Unhindered h ss ∨ ∃ before s rest e, ss = before ++ s :: rest ∧ Unhindered h before ∧
      s.fault? (afterAll h before) = some e := by
  induction ss generalizing h with
  | nil => exact .inl (unhindered_nil h)
  | cons s ss ih =>
    cases hs : s.fault? h with
    | some e => exact .inr ⟨[], s, ss, e, rfl, unhindered_nil h, hs⟩
    | none =>
      rcases ih (s.after h) with hu | ⟨before, s', rest, e, rfl, hu, hs'⟩
      · exact .inl (unhindered_cons_iff.2 ⟨hs, hu⟩)
      · exact .inr ⟨s :: before, s', rest, e, rfl, unhindered_cons_iff.2 ⟨hs, hu⟩, hs'⟩

/-- Taking steps succeeds exactly if none fails, and the answer is whether one of them wrote a file.
-/
theorem takeAll_eq_ok_iff :
    takeAll ss h = .ok changed h' ↔ Unhindered h ss ∧ h' = afterAll h ss ∧
      (changed = true ↔ Effect.pathsWritten (effects h ss) ≠ []) := by
  constructor
  · intro hrun
    rcases unhindered_or_exists_fault h ss with hu | ⟨before, s, rest, e, rfl, hu, hs⟩
    · obtain ⟨changed', hrun', hwrites⟩ := takeAll_of_unhindered hu
      rw [hrun'] at hrun
      cases hrun
      exact ⟨hu, rfl, hwrites⟩
    · rw [takeAll_of_fault hu hs] at hrun
      cases hrun
  · rintro ⟨hu, rfl, hwrites⟩
    obtain ⟨changed', hrun, hwrites'⟩ := takeAll_of_unhindered hu
    rw [hrun, Bool.eq_iff_iff.2 (hwrites'.trans hwrites.symm)]

/-- Taking steps fails exactly if there is a first one that fails. Its error is the error of the
whole, and the host is as the steps before it have left it. -/
theorem takeAll_eq_error_iff :
    takeAll ss h = .error e h' ↔ ∃ before s rest, ss = before ++ s :: rest ∧
      Unhindered h before ∧ s.fault? (afterAll h before) = some e ∧ h' = afterAll h before := by
  constructor
  · intro hrun
    rcases unhindered_or_exists_fault h ss with hu | ⟨before, s, rest, e', rfl, hu, hs⟩
    · obtain ⟨changed, hrun', -⟩ := takeAll_of_unhindered hu
      rw [hrun'] at hrun
      cases hrun
    · rw [takeAll_of_fault hu hs] at hrun
      cases hrun
      exact ⟨before, s, rest, rfl, hu, hs, rfl⟩
  · rintro ⟨before, s, rest, rfl, hu, hs, rfl⟩
    exact takeAll_of_fault hu hs

/-! ### What is said of a step that fails -/

/-- The message of the failure that is arranged for a step. A file is read before it is written, and
a failure of all writes matters only where none is arranged for the path. -/
def arranged? (h : MemoryHost) : WriteStep → Option String
  | converge file =>
    (h.faults.readsOf.get? file.path).or
      (if (converge file).writes h then (h.faults.writesTo.get? file.path).or h.faults.writes
        else none)
  | link .. => h.faults.links

/-- What is said of a step that fails, before the message that was arranged. It names the path of
the step: the file that could not be written, or the link that could not be made. A file that could
not even be read is named twice. -/
def complaint (h : MemoryHost) : WriteStep → String
  | converge file =>
    "unable to write " ++ file.path.text ++
      if (h.faults.readsOf.get? file.path).isSome then ": " ++ "unable to read " ++ file.path.text
      else ""
  | link target path => "unable to link " ++ path.text ++ " to " ++ target.text

theorem complaint_converge (h : MemoryHost) (file : ConfigFile) :
    complaint h (converge file) = "unable to write " ++ file.path.text ++
      if (h.faults.readsOf.get? file.path).isSome then ": " ++ "unable to read " ++ file.path.text
      else "" :=
  rfl

theorem complaint_link (h : MemoryHost) (target path : FilePath) :
    complaint h (link target path) = "unable to link " ++ path.text ++ " to " ++ target.text :=
  rfl

/-- The text of a failure is the complaint about the step, and at the end the message that was
arranged. -/
theorem message_fault? (s : WriteStep) (h : MemoryHost) :
    (s.fault? h).map (·.message) = (s.arranged? h).map (s.complaint h ++ ": " ++ ·) := by
  cases s with
  | converge file =>
    rw [fault?, arranged?, complaint_converge]
    cases h.faults.readsOf.get? file.path with
    | some message =>
      simp only [Option.map_some, Option.some_or, Option.isSome_some, if_true,
        HostError.message_during_writeFile, HostError.message_during_readFile,
        HostError.message_reported, String.append_assoc]
    | none =>
      simp only [Option.none_or, Option.isSome_none, Bool.false_eq_true, if_false,
        String.append_empty]
      split
      · simp only [Option.map_map, Function.comp_def, HostError.message_during_writeFile,
          HostError.message_reported]
      · rfl
  | link target path =>
    rw [fault?, arranged?, complaint_link]
    simp only [Option.map_map, Function.comp_def, HostError.message_during_linkPaths,
      HostError.message_reported]

/-- Every error of a step is worded so. -/
theorem exists_message_eq (hs : s.fault? h = some e) :
    ∃ message, s.arranged? h = some message ∧ e.message = s.complaint h ++ ": " ++ message := by
  have htext := s.message_fault? h
  rw [hs, Option.map_some] at htext
  obtain ⟨message, hmessage, heq⟩ := Option.map_eq_some_iff.1 htext.symm
  exact ⟨message, hmessage, heq.symm⟩

end WriteStep

/-! ### Writing a set of configurations -/

namespace ConfigPaths

/-- What writing a set of configurations comes to on a host, whatever is arranged to fail there. -/
structure FollowsRender (paths : ConfigPaths) (cs : InterfaceConfigs) (h : MemoryHost) : Prop where
  /-- The files of the steps are those that are rendered, in the same order. -/
  files_eq : (paths.writeSteps cs).filterMap WriteStep.file? = paths.render cs
  /-- The links of the interfaces by DHCP are made right after the file of the DHCP client, in the
  order of the configurations. -/
  steps_eq : paths.writeSteps cs =
    (paths.interfaceFiles cs).map .converge ++ (paths.dhclientFile? cs).toList.map .converge ++
      cs.configs.filterMap (fun c ↦ match c.protocol with
        | .dhcp _ => some (.link paths.dhclientConf (paths.dhclientLink c.device))
        | .static _ => none) ++
      (paths.resolverFile? cs).toList.map .converge
  /-- Writing succeeds exactly if no step fails. -/
  exists_ok_iff : (∃ changed h', paths.write cs h = .ok changed h') ↔
    WriteStep.Unhindered h (paths.writeSteps cs)
  /-- All steps have then been taken, and the answer is whether a file was written. -/
  of_ok : ∀ changed h', paths.write cs h = .ok changed h' →
    h' = WriteStep.afterAll h (paths.writeSteps cs) ∧
      h'.effects = h.effects ++ WriteStep.effects h (paths.writeSteps cs) ∧
      (changed = true ↔
        Effect.pathsWritten (WriteStep.effects h (paths.writeSteps cs)) ≠ [])
  /-- Otherwise the steps before the first one that fails have been taken, and nothing else was
  done. The text of the error names the path of that step and ends with the message of the failure
  that was arranged for it. -/
  of_error : ∀ e h', paths.write cs h = .error e h' →
    ∃ before s rest, paths.writeSteps cs = before ++ s :: rest ∧
      WriteStep.Unhindered h before ∧ s.fault? (WriteStep.afterAll h before) = some e ∧
      h' = WriteStep.afterAll h before ∧
      h'.effects = h.effects ++ WriteStep.effects h before ∧
      ∃ message, s.arranged? (WriteStep.afterAll h before) = some message ∧
        e.message = s.complaint (WriteStep.afterAll h before) ++ ": " ++ message

/-- The steps that make links, over all configurations. -/
theorem linkSteps_dhcps (paths : ConfigPaths) (cs : InterfaceConfigs) :
    paths.linkSteps cs.dhcps = cs.configs.filterMap fun c ↦ match c.protocol with
      | .dhcp _ => some (.link paths.dhclientConf (paths.dhclientLink c.device))
      | .static _ => none := by
  rw [linkSteps, InterfaceConfigs.dhcps, ← List.filterMap_eq_map, List.filterMap_filter]
  refine congrArg (List.filterMap · cs.configs) (funext fun c ↦ ?_)
  rw [InterfaceConfig.isDhcp]
  cases c.protocol with
  | static a => rfl
  | dhcp detected => rfl

/-- The steps in order. Where no interface is configured by DHCP, the group of the DHCP client has
neither its file nor a link. -/
theorem writeSteps_eq (paths : ConfigPaths) (cs : InterfaceConfigs) :
    paths.writeSteps cs =
      (paths.interfaceFiles cs).map .converge ++ (paths.dhclientFile? cs).toList.map .converge ++
        cs.configs.filterMap (fun c ↦ match c.protocol with
          | .dhcp _ => some (.link paths.dhclientConf (paths.dhclientLink c.device))
          | .static _ => none) ++
        (paths.resolverFile? cs).toList.map .converge := by
  rw [← linkSteps_dhcps, writeSteps, dhclientSteps, dhclientFile?]
  split
  · rename_i hnone
    have hdhcp : cs.hasDhcp = false := by simpa using hnone
    simp [linkSteps, hdhcp, dhcps_eq_nil_of_hasDhcp_eq_false hdhcp]
  · rename_i file hsome
    simp [hsome]

/-- Writing a set of configurations is making what is rendered, up to the first failure. -/
theorem followsRender_write (paths : ConfigPaths) (cs : InterfaceConfigs) (h : MemoryHost) :
    FollowsRender paths cs h where
  files_eq := files_writeSteps paths cs
  steps_eq := writeSteps_eq paths cs
  exists_ok_iff := by
    simp only [write_eq_takeAll, WriteStep.takeAll_eq_ok_iff]
    constructor
    · rintro ⟨changed, h', hu, -⟩
      exact hu
    · intro hu
      exact ⟨decide _, _, hu, rfl, decide_eq_true_iff⟩
  of_ok changed h' hw := by
    rw [write_eq_takeAll, WriteStep.takeAll_eq_ok_iff] at hw
    obtain ⟨-, rfl, hwrites⟩ := hw
    exact ⟨rfl, WriteStep.effects_afterAll h _, hwrites⟩
  of_error e h' hw := by
    rw [write_eq_takeAll, WriteStep.takeAll_eq_error_iff] at hw
    obtain ⟨before, s, rest, hsplit, hu, hs, rfl⟩ := hw
    exact ⟨before, s, rest, hsplit, hu, hs, rfl, WriteStep.effects_afterAll h before,
      WriteStep.exists_message_eq hs⟩

end ConfigPaths

end NetReconcile
