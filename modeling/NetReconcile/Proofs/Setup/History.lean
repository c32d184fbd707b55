import NetReconcile.Proofs.Setup.Ends

/-!
# Histories of setups

A host is set up again and again, and between two setups anything may happen to it. Whether a file
was written lives in one setup only: a setup that writes a file and then fails to write another, or
to make a link, ends before the restart, and a later one that finds the file in place sees no reason
to restart. So a write of a history is followed by a restart exactly when no such setup is the last
that wrote.

## Main definitions

* `NetworkManager.history`: the setups of a history, each with its result and what it did.
* `Answered`: every write is followed by a restart.
* `Call.Abandoned`, `Call.Restarted`: a setup that wrote a file and ended before the restart, or
  came to it.

## Main statements

* `NetworkManager.answered_history_iff`: when every write of a history is followed by a restart.
* `NetworkManager.not_answered_retried`: a history in which one is not, although its last setup
  succeeds.

## Three kinds of setups

For writes and restarts a setup is one of three things (`Call.Coherent`): it wrote nothing and did
not restart, it wrote and was abandoned, or it wrote and restarted after its last write. This is
read off `Records`. What happens to the host between two setups is arbitrary and has no part in it.
The statement about histories is then one about lists of such calls, by induction on the list:
whether the writes of the first call are answered is told by that call and by those that come later.
-/

namespace NetReconcile

open MemoryHost

/-! ### What comes after an element of a list -/

/-- Every element of a list stands in a relation to what comes after it. -/
def EachFollowed {α : Type} (P : α → List α → Prop) (l : List α) : Prop :=
  ∀ before a after, l = before ++ a :: after → P a after

section

variable {α : Type} {P : α → List α → Prop}

theorem eachFollowed_nil : EachFollowed P [] := by
  intro before a after h
  cases before <;> cases h

/-- Every member is followed by what it asks for if the first one is and all others are. -/
theorem eachFollowed_cons_iff {a : α} {l : List α} :
    EachFollowed P (a :: l) ↔ P a l ∧ EachFollowed P l := by
  constructor
  · intro h
    refine ⟨h [] a l rfl, fun before b after hl ↦ h (a :: before) b after ?_⟩
    rw [hl, List.cons_append]
  · rintro ⟨ha, hl⟩ before b after h
    cases before with
    | nil =>
      obtain ⟨rfl, rfl⟩ := List.cons.inj h
      exact ha
    | cons c before =>
      obtain ⟨rfl, hrest⟩ := List.cons.inj h
      exact hl before b after hrest

end

/-! ### Writes that are followed by a restart -/

/-- Every write of a stretch of the record is followed by the command that restarts. -/
def Answered (restart : List String) : List Effect → Prop :=
  EachFollowed fun e after ↦ e.written?.isSome → .run restart ∈ after

section

variable {restart : List String} {e : Effect} {es fs : List Effect}

/-- A write is answered by a restart later in the record. -/
theorem answered_cons_iff :
    Answered restart (e :: es) ↔
      (e.written?.isSome → .run restart ∈ es) ∧ Answered restart es :=
  eachFollowed_cons_iff

/-- A stretch without writes needs no restart. -/
theorem answered_append_iff_of_pathsWritten_eq_nil (h : Effect.pathsWritten es = []) :
    Answered restart (es ++ fs) ↔ Answered restart fs := by
  induction es with
  | nil => rfl
  | cons e es ih =>
    have hnone : ∀ e' ∈ e :: es, e'.written? = none := List.filterMap_eq_nil_iff.1 h
    have hes : Effect.pathsWritten es = [] :=
      List.filterMap_eq_nil_iff.2 fun e' he' ↦ hnone e' (List.mem_cons_of_mem _ he')
    rw [List.cons_append, answered_cons_iff, hnone e List.mem_cons_self, ih hes]
    simp

/-- A restart answers all writes before it. -/
theorem answered_append_run_iff :
    Answered restart (es ++ .run restart :: fs) ↔ Answered restart fs := by
  induction es with
  | nil =>
    rw [List.nil_append, answered_cons_iff]
    simp [Effect.written?]
  | cons e es ih =>
    rw [List.cons_append, answered_cons_iff, ih]
    simp

/-- Writes are not answered without a restart. -/
theorem not_answered_of_not_mem (hw : Effect.pathsWritten es ≠ []) (hrun : .run restart ∉ es) :
    ¬Answered restart es := by
  intro hanswered
  obtain ⟨path, hpath⟩ := List.exists_mem_of_ne_nil _ hw
  obtain ⟨e, he, hwritten⟩ := List.mem_filterMap.1 hpath
  obtain ⟨before, after, rfl⟩ := List.append_of_mem he
  have hmem : .run restart ∈ after := hanswered before e after rfl (by rw [hwritten]; rfl)
  exact hrun (List.mem_append_right _ (List.mem_cons_of_mem _ hmem))

/-- Writes with no restart among them have to be answered by a later one. -/
theorem answered_append_iff_of_isOnFiles (h : ∀ e ∈ es, e.isOnFiles) :
    Answered restart (es ++ fs) ↔
      (Effect.pathsWritten es ≠ [] → .run restart ∈ fs) ∧ Answered restart fs := by
  induction es with
  | nil => simp
  | cons e es ih =>
    have hes : ∀ e' ∈ es, e'.isOnFiles := fun e' he' ↦ h e' (List.mem_cons_of_mem _ he')
    -- the restart that the first write needs can come after the stretch only
    have hrun : .run restart ∉ es := fun hmem ↦ Bool.false_ne_true (hes _ hmem)
    rw [List.cons_append, answered_cons_iff, ih hes, List.mem_append]
    cases he : e.written? with
    | none => simp [Effect.pathsWritten, he]
    | some path =>
      simp only [Effect.pathsWritten, hrun, List.filterMap_cons_some he, ne_eq, reduceCtorEq,
        not_false_eq_true, Option.isSome_some, false_or, forall_const]
      constructor
      · rintro ⟨hr, -, ha⟩
        exact ⟨hr, ha⟩
      · rintro ⟨hr, ha⟩
        exact ⟨hr, fun _ ↦ hr, ha⟩

end

/-! ### Histories -/

/-- What happens to a host from outside, and the setup that follows. -/
structure Turn where
  change : MemoryHost → MemoryHost
  networks : Networks
  completion : Completion := .unrequested

/-- A setup of a history: its result, and what it did. -/
structure Call where
  result : Except NetworkError Unit
  effects : List Effect

namespace Call

/-- The setup wrote a file. -/
def Wrote (c : Call) : Prop :=
  Effect.pathsWritten c.effects ≠ []

/-- The setup wrote a file and then failed to write another, or to make a link. -/
def Abandoned (c : Call) : Prop :=
  c.Wrote ∧ ∃ e, c.result = .error (.persistence e)

/-- The setup wrote a file and got past writing. -/
def Restarted (c : Call) : Prop :=
  c.Wrote ∧ (c.result = .ok () ∨ ∃ target e, c.result = .error (.validation target e))

/-- A setup that came to the restart was not abandoned before it. -/
theorem Restarted.not_abandoned {c : Call} (hr : c.Restarted) : ¬c.Abandoned := by
  rintro ⟨-, e, hresult⟩
  rcases hr.2 with hok | ⟨target, e', hvalidation⟩
  · rw [hresult] at hok
    cases hok
  · rw [hresult] at hvalidation
    cases hvalidation

end Call

namespace NetworkManager

/-- Takes a turn. The record of a host starts anew, so that it tells what this setup does. -/
def call (m : NetworkManager) (t : Turn) (h : MemoryHost) : Call × MemoryHost :=
  let (out, h') := m.setup t.networks t.completion { t.change h with effects := [] }
  (⟨out.result, h'.effects⟩, h')

/-- Takes turns one after the other. -/
def history (m : NetworkManager) : List Turn → MemoryHost → List Call
  | [], _ => []
  | t :: ts, h =>
    let (c, h') := m.call t h
    c :: m.history ts h'

end NetworkManager

/-! ### One setup of a history -/

/-- How a setup stands to restarts: it writes nothing and runs nothing but `arping`, or it is
abandoned and runs nothing, or it restarts after all its writes. -/
inductive Call.Coherent (restart : List String) (c : Call) : Prop
  | idle (hwrites : ¬c.Wrote)
      (hrun : ∀ command, .run command ∈ c.effects →
        ∃ interface ip, command = arpingCommand interface ip)
  | abandoned (habandoned : c.Abandoned) (hfiles : ∀ e ∈ c.effects, e.isOnFiles)
  | restarted (hrestarted : c.Restarted) {done announcing : List Effect}
      (heffects : c.effects = done ++ .run restart :: announcing)
      (hwrites : Effect.pathsWritten announcing = [])

namespace NetworkManager

variable {m : NetworkManager} {networks : Networks} {h : MemoryHost}

/-- What the record of a setup tells about writes and restarts, by its result. -/
theorem coherent_of_records {result : Except NetworkError Unit} {added : List Effect}
    (hr : Records m networks h result added) : Call.Coherent m.restartCommand ⟨result, added⟩ := by
  cases hr with
  | undetected => exact .idle (fun hw ↦ hw rfl) (by simp)
  | underived => exact .idle (fun hw ↦ hw rfl) (by simp)
  | @unwritten e _ hdone =>
    by_cases hw : Effect.pathsWritten added = []
    · refine .idle (fun hne ↦ hne hw) fun command hmem ↦ ?_
      cases hdone _ hmem
    · exact .abandoned ⟨hw, e, rfl⟩ hdone
  | @unconfirmed target e done hdone =>
    by_cases hw : Effect.pathsWritten done = []
    · rw [if_pos hw, List.append_nil]
      refine .idle (fun hne ↦ hne hw) fun command hmem ↦ ?_
      cases hdone _ hmem
    · rw [if_neg hw]
      refine .restarted ⟨?_, .inr ⟨target, e, rfl⟩⟩ rfl Effect.pathsWritten_nil
      simp [Call.Wrote, hw]
  | @completed cs done sent hd hdone hsent hrecorder =>
    -- announcing writes nothing, so what was written is told by `done` alone
    have hannouncing : Effect.pathsWritten (.broadcast cs.announcements :: sent.map .run) = [] := by
      simp [Effect.pathsWritten, Effect.written?]
    by_cases hw : Effect.pathsWritten done = []
    · rw [if_pos hw, List.append_nil]
      refine .idle ?_ fun command hmem ↦ ?_
      · simp [Call.Wrote, hw, hannouncing]
      · rcases List.mem_append.1 hmem with hmem | hmem
        · cases hdone _ hmem
        · have hmem : command ∈ sent := by simpa using hmem
          obtain ⟨b, -, ip, rfl⟩ := hsent command hmem
          exact ⟨b.interface, ip, rfl⟩
    · rw [if_neg hw]
      have heffects : done ++ [.run m.restartCommand] ++
          .broadcast cs.announcements :: sent.map .run =
          done ++ .run m.restartCommand :: .broadcast cs.announcements :: sent.map .run := by
        simp
      refine .restarted ⟨?_, .inl rfl⟩ heffects hannouncing
      simp [Call.Wrote, hw]

/-- Every setup of a history stands to restarts in one of the three ways. -/
theorem coherent_call (m : NetworkManager) (t : Turn) (h : MemoryHost) :
    (m.call t h).1.Coherent m.restartCommand := by
  obtain ⟨added, heffects, hrecords⟩ :=
    (m.ends_setup t.networks t.completion { t.change h with effects := [] }).exists_records
  have hcoherent := coherent_of_records hrecords
  -- the record starts anew, so all of it was added by this setup
  rw [List.nil_append] at heffects
  rw [← heffects] at hcoherent
  exact hcoherent

/-- Every setup of a history stands to restarts in one of the three ways, whatever came before it.
-/
theorem coherent_of_mem_history {turns : List Turn} {c : Call} (hc : c ∈ m.history turns h) :
    c.Coherent m.restartCommand := by
  induction turns generalizing h with
  | nil => cases hc
  | cons t turns ih =>
    rcases List.mem_cons.1 hc with rfl | hc
    · exact m.coherent_call t h
    · exact ih hc

end NetworkManager

/-! ### All setups of a history -/

section

variable {restart : List String} {c : Call} {calls : List Call}

/-- A setup has run the command that restarts exactly if it got past writing with a file written. -/
theorem Call.Coherent.run_mem_iff (hc : c.Coherent restart)
    (hr : ∀ interface ip, restart ≠ arpingCommand interface ip) :
    .run restart ∈ c.effects ↔ c.Restarted := by
  cases hc with
  | idle hwrites hrun =>
    refine ⟨fun hmem ↦ ?_, fun hrestarted ↦ absurd hrestarted.1 hwrites⟩
    obtain ⟨interface, ip, heq⟩ := hrun restart hmem
    exact absurd heq (hr interface ip)
  | abandoned habandoned hfiles =>
    refine ⟨fun hmem ↦ ?_, fun hrestarted ↦ absurd habandoned hrestarted.not_abandoned⟩
    cases hfiles _ hmem
  | restarted hrestarted heffects hwrites =>
    refine ⟨fun _ ↦ hrestarted, fun _ ↦ ?_⟩
    rw [heffects]
    exact List.mem_append_right _ List.mem_cons_self

/-- There is a restart in a history exactly if one of its setups came to it. -/
theorem run_mem_flatMap_iff (hc : ∀ c ∈ calls, c.Coherent restart)
    (hr : ∀ interface ip, restart ≠ arpingCommand interface ip) :
    .run restart ∈ calls.flatMap (·.effects) ↔ ∃ d ∈ calls, d.Restarted := by
  rw [List.mem_flatMap]
  constructor
  · rintro ⟨d, hd, hmem⟩
    exact ⟨d, hd, ((hc d hd).run_mem_iff hr).1 hmem⟩
  · rintro ⟨d, hd, hrestarted⟩
    exact ⟨d, hd, ((hc d hd).run_mem_iff hr).2 hrestarted⟩

/-- What a setup asks of those that come after it: a restart, if it was abandoned. -/
theorem Call.Coherent.answered_append_iff {rest : List Effect} (hc : c.Coherent restart) :
    Answered restart (c.effects ++ rest) ↔
      (c.Abandoned → .run restart ∈ rest) ∧ Answered restart rest := by
  cases hc with
  | idle hwrites hrun =>
    rw [answered_append_iff_of_pathsWritten_eq_nil (Classical.not_not.1 hwrites)]
    exact ⟨fun ha ↦ ⟨fun habandoned ↦ absurd habandoned.1 hwrites, ha⟩, And.right⟩
  | abandoned habandoned hfiles =>
    rw [answered_append_iff_of_isOnFiles hfiles]
    exact and_congr_left fun _ ↦
      ⟨fun h _ ↦ h habandoned.1, fun h _ ↦ h habandoned⟩
  | restarted hrestarted heffects hwrites =>
    rw [heffects, List.append_assoc, List.cons_append, answered_append_run_iff,
      answered_append_iff_of_pathsWritten_eq_nil hwrites]
    exact ⟨fun ha ↦ ⟨fun habandoned ↦ absurd habandoned hrestarted.not_abandoned, ha⟩, And.right⟩

/-- Writes of several setups are answered exactly if each that was abandoned is followed by one that
came to a restart. -/
theorem answered_flatMap_iff (hc : ∀ c ∈ calls, c.Coherent restart)
    (hr : ∀ interface ip, restart ≠ arpingCommand interface ip) :
    Answered restart (calls.flatMap (·.effects)) ↔
      EachFollowed (fun c later ↦ c.Abandoned → ∃ d ∈ later, d.Restarted) calls := by
  induction calls with
  | nil => exact ⟨fun _ ↦ eachFollowed_nil, fun _ ↦ eachFollowed_nil⟩
  | cons c calls ih =>
    have hcalls : ∀ d ∈ calls, d.Coherent restart := fun d hd ↦ hc d (List.mem_cons_of_mem _ hd)
    rw [List.flatMap_cons, (hc c List.mem_cons_self).answered_append_iff, ih hcalls,
      run_mem_flatMap_iff hcalls hr, eachFollowed_cons_iff]

end

namespace NetworkManager

/-- Every write of a history is followed by a restart exactly if every setup that was abandoned
after it had written a file is followed by one that got past writing with a file written. The
command that restarts has to be told from `arping`. -/
theorem answered_history_iff {m : NetworkManager}
    (hr : ∀ interface ip, m.restartCommand ≠ arpingCommand interface ip) (turns : List Turn)
    (h : MemoryHost) :
    Answered m.restartCommand ((m.history turns h).flatMap (·.effects)) ↔
      EachFollowed (fun c later ↦ c.Abandoned → ∃ d ∈ later, d.Restarted) (m.history turns h) :=
  answered_flatMap_iff (fun _ ↦ coherent_of_mem_history) hr

/-! ### A restart that is forgotten -/

/-- A host with one interface, on which no link can be made. -/
def unlinkable : MemoryHost where
  interfaces := [⟨"eth0", some "aa", true⟩]
  faults := { links := some "busy" }

/-- A network whose address comes by DHCP. -/
def dynamicNetwork : Networks :=
  NameMap.ofList [("wan", { kind := .dynamic })]

/-- Two setups, the second after what hindered the first is gone. -/
def retried : List Turn :=
  [⟨id, dynamicNetwork, .unrequested⟩, ⟨heal, dynamicNetwork, .unrequested⟩]

/-- The history of two setups of which the first one cannot make its link. -/
theorem answered_history_iff_retried :
    Answered terse.restartCommand ((terse.history retried unlinkable).flatMap (·.effects)) ↔
      EachFollowed (fun c later ↦ c.Abandoned → ∃ d ∈ later, d.Restarted)
        (terse.history retried unlinkable) := by
  have hr : ∀ interface ip, terse.restartCommand ≠ arpingCommand interface ip := by
    intro interface ip heq
    have hhead : "service" = "arping" := (List.cons.inj heq).1
    revert hhead
    decide
  exact answered_history_iff hr retried unlinkable

/-- The first setup writes two files and cannot make the link. The second one finds both files in
place, makes the link and succeeds without a restart. -/
theorem not_answered_retried :
    (terse.history retried unlinkable).map (·.result.toOption) = [none, some ()] ∧
      ¬Answered terse.restartCommand
        ((terse.history retried unlinkable).flatMap (·.effects)) := by
  refine ⟨?_, not_answered_of_not_mem ?_ ?_⟩
  · decide +kernel
  · decide +kernel
  · decide +kernel

end NetworkManager

end NetReconcile
