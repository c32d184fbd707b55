import NetReconcile.Materialize

/-!
# Writing as a list of steps

`ConfigPaths.write` goes through three groups of files, with links after the second. What it does on
any host is the same as taking the steps of one list in order: a step makes a file hold its text or
makes a link, and the first step that fails is the last one taken. Statements about writing are
therefore proved by induction on that list.

## Main statements

* `ConfigPaths.write_eq_takeAll`: writing is taking the steps of `ConfigPaths.writeSteps`.
* `ConfigPaths.files_writeSteps`: the files of the steps are those that are rendered, in order.
* `ConfigPaths.links_writeSteps`: the links of the steps are those of the dynamic interfaces.
-/

namespace NetReconcile

/-- One step of writing a set of configurations. -/
inductive WriteStep
  /-- Makes a file hold its text. -/
  | converge (file : ConfigFile)
  /-- Makes the second path a link to the first. -/
  | link (target path : FilePath)
  deriving DecidableEq

namespace WriteStep

/-- The file of a step. -/
def file? : WriteStep → Option ConfigFile
  | converge file => some file
  | link .. => none

/-- The path that a step makes a link. -/
def link? : WriteStep → Option FilePath
  | converge _ => none
  | link _ path => some path

section

variable {σ : Type} [Station σ]

/-- Takes a step. The answer is whether a file had to be written. -/
def take : WriteStep → HostM σ Bool
  | converge file => file.converge
  | link target path => do
    within (.linkPaths path target) (FileStore.link target path)
    return false

/-- Takes steps in order. The answer is whether a file had to be written in one of them. -/
def takeAll : List WriteStep → HostM σ Bool
  | [] => pure false
  | s :: ss => do
    let changed ← s.take
    let rest ← takeAll ss
    return changed || rest

/-- Steps can be taken in two parts. A file was written if one was in either part. -/
theorem takeAll_append (ss ts : List WriteStep) :
    (takeAll (ss ++ ts) : HostM σ Bool) = do
      let first ← takeAll ss
      let second ← takeAll ts
      return first || second := by
  induction ss with
  | nil => simp only [List.nil_append, takeAll, pure_bind, Bool.false_or, bind_pure]
  | cons s ss ih => simp only [List.cons_append, takeAll, ih, bind_assoc, pure_bind, Bool.or_assoc]

/-- Making files hold their texts is taking their steps. -/
theorem takeAll_map_converge (files : List ConfigFile) :
    (takeAll (files.map converge) : HostM σ Bool) = ConfigFile.convergeAll files := by
  induction files with
  | nil => rfl
  | cons file files ih => simp [takeAll, take, ConfigFile.convergeAll, ih]

end

end WriteStep

namespace ConfigPaths

open WriteStep

/-- The links by which the DHCP client finds its configuration, as steps. -/
def linkSteps (paths : ConfigPaths) (cs : List InterfaceConfig) : List WriteStep :=
  cs.map fun c ↦ .link paths.dhclientConf (paths.dhclientLink c.device)

/-- The steps of writing the configuration of the DHCP client. -/
def dhclientSteps (paths : ConfigPaths) (cs : InterfaceConfigs) : List WriteStep :=
  match paths.dhclientFile? cs with
  | none => []
  | some file => .converge file :: paths.linkSteps cs.dhcps

/-- The steps of writing a set of configurations. -/
def writeSteps (paths : ConfigPaths) (cs : InterfaceConfigs) : List WriteStep :=
  (paths.interfaceFiles cs).map .converge ++ paths.dhclientSteps cs ++
    (paths.resolverFile? cs).toList.map .converge

/-! ### The steps do what writing does -/

section

variable {σ : Type} [Station σ]

/-- Making links is taking their steps, and writes no file. -/
theorem takeAll_linkSteps (paths : ConfigPaths) (cs : List InterfaceConfig) :
    (takeAll (paths.linkSteps cs) : HostM σ Bool) = do
      paths.linkAll cs
      return false := by
  induction cs with
  | nil => simp [linkSteps, takeAll, linkAll]
  | cons c cs ih =>
    rw [linkSteps] at ih
    simp [linkSteps, takeAll, take, linkAll, ih]

/-- Writing the configuration of the DHCP client, with its links, is taking the steps of that group.
-/
theorem writeDhclient_eq_takeAll (paths : ConfigPaths) (cs : InterfaceConfigs) :
    (paths.writeDhclient cs : HostM σ Bool) = takeAll (paths.dhclientSteps cs) := by
  unfold writeDhclient dhclientSteps
  cases paths.dhclientFile? cs with
  | none => rfl
  | some file => simp [takeAll, take, takeAll_linkSteps]

/-- Writing a set of configurations is taking its steps in order. -/
theorem write_eq_takeAll (paths : ConfigPaths) (cs : InterfaceConfigs) :
    (paths.write cs : HostM σ Bool) = takeAll (paths.writeSteps cs) := by
  rw [write, writeSteps, takeAll_append, takeAll_append, takeAll_map_converge,
    takeAll_map_converge, writeDhclient_eq_takeAll]
  simp only [bind_assoc, pure_bind]

end

/-! ### Files and links of the steps -/

theorem filterMap_file?_map_converge (files : List ConfigFile) :
    (files.map WriteStep.converge).filterMap file? = files := by
  induction files with
  | nil => rfl
  | cons file files ih => simp [file?, ih]

theorem filterMap_link?_map_converge (files : List ConfigFile) :
    (files.map WriteStep.converge).filterMap link? = [] := by
  simp [link?]

theorem filterMap_file?_linkSteps (paths : ConfigPaths) (cs : List InterfaceConfig) :
    (paths.linkSteps cs).filterMap file? = [] := by
  simp [linkSteps, file?]

/-- The links of the steps are those of the interfaces, in the same order. -/
theorem filterMap_link?_linkSteps (paths : ConfigPaths) (cs : List InterfaceConfig) :
    (paths.linkSteps cs).filterMap link? = cs.map fun c ↦ paths.dhclientLink c.device := by
  induction cs with
  | nil => rfl
  | cons c cs ih => simpa [linkSteps, link?] using ih

/-- The files of the steps are those that are rendered, in the same order. -/
theorem files_writeSteps (paths : ConfigPaths) (cs : InterfaceConfigs) :
    (paths.writeSteps cs).filterMap file? = paths.render cs := by
  have hdhclient : (paths.dhclientSteps cs).filterMap file? = (paths.dhclientFile? cs).toList := by
    unfold dhclientSteps
    cases paths.dhclientFile? cs with
    | none => rfl
    | some file => simp [file?, filterMap_file?_linkSteps]
  rw [writeSteps, List.filterMap_append, List.filterMap_append, filterMap_file?_map_converge,
    filterMap_file?_map_converge, hdhclient, render]

/-- Every configuration has its file among those that are rendered. -/
theorem mem_render_of_mem_configs (paths : ConfigPaths) {cs : InterfaceConfigs}
    {c : InterfaceConfig} (hc : c ∈ cs.configs) :
    ⟨paths.ifcfg c.device, c.ifcfg⟩ ∈ paths.render cs := by
  rw [render, interfaceFiles, List.append_assoc]
  exact List.mem_append_left _ (List.mem_map_of_mem hc)

/-- Where no interface is configured by DHCP, there are no links to make. -/
theorem dhcps_eq_nil_of_hasDhcp_eq_false {cs : InterfaceConfigs} (h : cs.hasDhcp = false) :
    cs.dhcps = [] := by
  rw [InterfaceConfigs.hasDhcp, List.any_eq_false] at h
  exact List.filter_eq_nil_iff.2 h

/-- The links of the steps are those of the dynamic interfaces, in the same order. -/
theorem links_writeSteps (paths : ConfigPaths) (cs : InterfaceConfigs) :
    (paths.writeSteps cs).filterMap link? =
      cs.dhcps.map fun c ↦ paths.dhclientLink c.device := by
  have hdhclient : (paths.dhclientSteps cs).filterMap link? =
      cs.dhcps.map fun c ↦ paths.dhclientLink c.device := by
    unfold dhclientSteps dhclientFile?
    cases hd : cs.hasDhcp with
    | false => simp [dhcps_eq_nil_of_hasDhcp_eq_false hd]
    | true => simp [List.filterMap_cons, link?, filterMap_link?_linkSteps]
  rw [writeSteps, List.filterMap_append, List.filterMap_append, filterMap_link?_map_converge,
    filterMap_link?_map_converge, hdhclient, List.nil_append, List.append_nil]

/-- Every link of the steps leads to the configuration of the DHCP client. -/
theorem eq_dhclientConf_of_link_mem {paths : ConfigPaths} {cs : InterfaceConfigs}
    {target path : FilePath} (h : WriteStep.link target path ∈ paths.writeSteps cs) :
    target = paths.dhclientConf := by
  unfold writeSteps dhclientSteps at h
  cases hf : paths.dhclientFile? cs with
  | none => simp [hf] at h
  | some file =>
    simp only [hf, linkSteps, List.mem_append, List.mem_map, List.mem_cons, reduceCtorEq,
      and_false, exists_false, false_or, or_false, WriteStep.link.injEq] at h
    obtain ⟨-, -, rfl, -⟩ := h
    rfl

end ConfigPaths

end NetReconcile
