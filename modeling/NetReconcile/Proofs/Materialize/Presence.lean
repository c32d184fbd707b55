import NetReconcile.Proofs.ManagedPath
import NetReconcile.Proofs.Materialize.Convergence

/-!
# What is at a path after writing

Writing removes nothing, so something is at a path after it if it was there before or a step is
about the path, and then only. This holds whatever paths the steps are about, also where they get in
each other's way. The file of an interface is a path that only few steps can be about: the links of
the DHCP client have other names, and files of interfaces with other names are other paths.

## Main definitions

* `MemoryHost.Has`: something is at a path.
* `WriteStep.path`: the path that a step is about.

## Main statements

* `WriteStep.has_afterAll`: what is there after all steps.
* `ConfigPaths.perm_map_path_writeSteps`: the steps are about the paths that are managed.
* `ConfigPaths.exists_step_iff`: the file of an interface is written exactly for that interface.
-/

namespace NetReconcile

open MemoryHost

/-- There is a file or a link at a path. -/
def MemoryHost.Has (h : MemoryHost) (path : FilePath) : Prop :=
  h.files.contains path = true ∨ h.links.contains path = true

/-- A map has what it had, and the path that was set. -/
theorem PathMap.contains_set {α : Type} (m : PathMap α) (p q : FilePath) (value : α) :
    (m.set p value).contains q = true ↔ m.contains q = true ∨ p.same q = true := by
  rw [contains, contains, get?_set]
  split
  · rename_i hp
    simp [hp]
  · rename_i hp
    simp [hp]

namespace WriteStep

/-- The path that a step is about. -/
def path : WriteStep → FilePath
  | converge file => file.path
  | link _ path => path

section

variable {h : MemoryHost} {s : WriteStep} {ss : List WriteStep} {p : FilePath}

/-- A file that holds its text is there, by itself or through a link. -/
theorem has_of_textAt?_eq_some {contents : String} (htext : h.textAt? p = some contents) :
    h.Has p := by
  rw [textAt?] at htext
  cases hlink : h.links.get? p with
  | some target => exact .inr (by rw [PathMap.contains, hlink, Option.isSome_some])
  | none =>
    rw [hlink, Option.getD_none] at htext
    exact .inl (by rw [PathMap.contains, htext, Option.isSome_some])

/-- A step adds its path to what is there, unless it is there already. -/
theorem has_after (hf : h.FaultFree) (s : WriteStep) (p : FilePath) :
    (s.after h).Has p ↔ h.Has p ∨ s.path.same p = true := by
  cases s with
  | link target path =>
    show h.files.contains p = true ∨ (h.links.set path target).contains p = true ↔ _
    rw [PathMap.contains_set, ← or_assoc]
    rfl
  | converge file =>
    rw [after]
    split
    · show (if h.faults.discards.any (·.same file.path) then h.files
        else h.files.set file.path file.contents).contains p = true ∨ h.links.contains p = true ↔ _
      rw [hf.faults_eq, if_neg (by simp), PathMap.contains_set, or_right_comm]
      rfl
    · -- the step has found the text in place, so its path adds nothing
      rename_i hw
      have htext : h.textAt? file.path = some file.contents := by simpa [writes] using hw
      refine ⟨.inl, ?_⟩
      rintro (hhas | hsame)
      · exact hhas
      · have hpath : file.path.same p = true := hsame
        have hthere := has_of_textAt?_eq_some htext
        rw [Has, PathMap.contains, PathMap.contains, PathMap.get?_congr _ hpath,
          PathMap.get?_congr _ hpath] at hthere
        exact hthere

/-- After all steps there is what was there before and what the steps are about. -/
theorem has_afterAll (hf : h.FaultFree) (ss : List WriteStep) (p : FilePath) :
    (afterAll h ss).Has p ↔ h.Has p ∨ ∃ s ∈ ss, s.path.same p = true := by
  induction ss generalizing h with
  | nil => simp
  | cons s ss ih =>
    rw [afterAll_cons, ih (faultFree_after hf), has_after hf, or_assoc]
    simp only [List.mem_cons, exists_eq_or_imp]

end

end WriteStep

/-! ### The paths of the steps -/

/-- Every step is about the path of its file or of its link. -/
theorem WriteStep.perm_map_path (ss : List WriteStep) :
    (ss.map path).Perm ((ss.filterMap file?).map (·.path) ++ ss.filterMap link?) := by
  induction ss with
  | nil => exact .nil
  | cons s ss ih =>
    cases s with
    | converge file => exact ih.cons file.path
    | link target path => exact (ih.cons path).trans List.perm_middle.symm

namespace ConfigPaths

variable {paths : ConfigPaths} {cs : InterfaceConfigs} {name : String}

/-- The steps of writing are about the paths that are managed, each of them once. -/
theorem perm_map_path_writeSteps (paths : ConfigPaths) (cs : InterfaceConfigs) :
    ((paths.writeSteps cs).map WriteStep.path).Perm (cs.managed.map paths.locate) := by
  rw [map_locate_managed, ← files_writeSteps, ← links_writeSteps]
  exact WriteStep.perm_map_path _

/-- A step is about a path exactly if the path is managed. -/
theorem exists_step_same_iff {q : FilePath} :
    (∃ s ∈ paths.writeSteps cs, s.path.same q = true) ↔
      ∃ p ∈ cs.managed, (paths.locate p).same q = true := by
  have hmem : ∀ r, r ∈ (paths.writeSteps cs).map WriteStep.path ↔ r ∈ cs.managed.map paths.locate :=
    fun _ ↦ (paths.perm_map_path_writeSteps cs).mem_iff
  simp only [List.mem_map] at hmem
  constructor
  · rintro ⟨s, hs, hsame⟩
    obtain ⟨p, hp, hpath⟩ := (hmem s.path).1 ⟨s, hs, rfl⟩
    exact ⟨p, hp, hpath ▸ hsame⟩
  · rintro ⟨p, hp, hsame⟩
    obtain ⟨s, hs, hpath⟩ := (hmem (paths.locate p)).2 ⟨p, hp, rfl⟩
    exact ⟨s, hs, hpath ▸ hsame⟩

/-- Where the shared files are none of interfaces, the file of an interface is written exactly if
the interface has a configuration. -/
theorem exists_step_iff (hdevices : ∀ c ∈ cs.configs, '/' ∉ c.device.toList)
    (hname : '/' ∉ name.toList) (hdhclient : paths.dhclientConf.same (paths.ifcfg name) = false)
    (hresolver : paths.resolvConf.same (paths.ifcfg name) = false) :
    (∃ s ∈ paths.writeSteps cs, s.path.same (paths.ifcfg name) = true) ↔
      name ∈ cs.configs.map (·.device) := by
  rw [exists_step_same_iff]
  constructor
  · rintro ⟨p, hp, hsame⟩
    have hflat := InterfaceConfigs.isFlat_of_mem_managed hdevices hp
    -- of the four kinds of paths only the file of an interface can be that of `name`
    cases p with
    | ifcfg device =>
      rw [locate_ifcfg, same_ifcfg_iff (hflat device rfl) hname] at hsame
      exact hsame ▸ InterfaceConfigs.device_mem_of_mem_managed hp rfl
    | dhclientLink device =>
      rw [locate_dhclientLink, not_same_dhclientLink (hflat device rfl) hname] at hsame
      cases hsame
    | dhclientConf =>
      rw [locate_dhclientConf, hdhclient] at hsame
      cases hsame
    | resolvConf =>
      rw [locate_resolvConf, hresolver] at hsame
      cases hsame
  · intro hmem
    refine ⟨.ifcfg name, InterfaceConfigs.ifcfg_mem_managed hmem, ?_⟩
    rw [locate_ifcfg]
    exact FilePath.same_refl _

end ConfigPaths

end NetReconcile
