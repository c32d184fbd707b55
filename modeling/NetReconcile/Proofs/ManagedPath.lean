import Mathlib.Data.List.Nodup
import NetReconcile.ConfigFile
import NetReconcile.Proofs.FilePath

/-!
# Managed paths

Every interface has two paths of its own, its file and the link by which the DHCP client finds its
configuration. All interfaces share two more, the configuration of the DHCP client and the resolver
file. What a path of an interface is for is told by its last component, so such paths never
collide, in whatever directories they are and however these are spelled. The shared files can be
put anywhere, also where a file of an interface is. They collide with nothing as long as they keep
their usual names, whatever directories they are in.

## Main definitions

* `ManagedPath`: a managed path, by what it is for.
* `ManagedPath.name`: the usual name of the file or link at a managed path.
* `ConfigPaths.locate`: where a managed path is.
* `ConfigPaths.HasUsualNames`: the shared files have their usual names.
* `InterfaceConfigs.managed`: the paths that a set of configurations needs.

## Main statements

* `ManagedPath.name_injective`: no two managed paths have the same usual name.
* `ConfigPaths.same_locate_iff`: managed paths with their usual names are told apart.
* `ConfigPaths.pairwise_managed`: the files and links of different interfaces do not collide.
* `ConfigPaths.uncollided_locate`: what belongs to interfaces never collides, and in the usual
  places nothing does.

## One argument for all kinds of paths

There are four kinds of managed paths, and so ten ways in which two of them could collide. None of
these is looked at by itself. A managed path is at its usual name below some directory, its name
determines what it is for (`ManagedPath.name_injective`), and the same path has the same last
component wherever its directory is. So different managed paths are different paths
(`same_locate_iff`), and a list of them has no collision if it has no repetition (`nodup_managed`).
-/

namespace NetReconcile

/-- A managed path, by what it is for. -/
inductive ManagedPath
  /-- The file of an interface. -/
  | ifcfg (device : String)
  /-- The link by which the DHCP client finds its configuration for an interface. -/
  | dhclientLink (device : String)
  /-- The configuration of the DHCP client. -/
  | dhclientConf
  /-- The resolver file. -/
  | resolvConf
  deriving DecidableEq, Repr

namespace ManagedPath

/-- The interface that a path belongs to. All interfaces share the others. -/
def device? : ManagedPath → Option String
  | ifcfg device => some device
  | dhclientLink device => some device
  | dhclientConf => none
  | resolvConf => none

/-- A path belongs to no interface whose name would lead into a directory. -/
def IsFlat (p : ManagedPath) : Prop :=
  ∀ device ∈ p.device?, '/' ∉ device.toList

instance (p : ManagedPath) : Decidable p.IsFlat :=
  inferInstanceAs (Decidable (∀ device ∈ p.device?, '/' ∉ device.toList))

/-- The usual name of the file or link at a path. -/
def name : ManagedPath → String
  | ifcfg device => "ifcfg-" ++ device
  | dhclientLink device => "dhclient-" ++ device ++ ".conf"
  | dhclientConf => "dhclient.conf"
  | resolvConf => "resolv.conf"

theorem isFlat_ifcfg {device : String} (h : '/' ∉ device.toList) : (ifcfg device).IsFlat :=
  fun _ hdevice ↦ Option.some.inj hdevice ▸ h

theorem isFlat_dhclientLink {device : String} (h : '/' ∉ device.toList) :
    (dhclientLink device).IsFlat :=
  fun _ hdevice ↦ Option.some.inj hdevice ▸ h

/-- What a path is for is told by its name. A name that starts as the links do is that of a link or
has a dot where links have a hyphen. -/
theorem name_injective : Function.Injective name := by
  intro p q h
  have hchars : p.name.toList = q.name.toList := congrArg String.toList h
  cases p with
  | ifcfg device =>
    cases q with
    | ifcfg device' => rw [(String.append_right_inj _).1 h]
    | dhclientLink | dhclientConf | resolvConf => simp [name] at hchars
  | dhclientLink device =>
    cases q with
    | dhclientLink device' => rw [(String.append_right_inj _).1 ((String.append_left_inj _).1 h)]
    | ifcfg | dhclientConf | resolvConf => simp [name] at hchars
  | dhclientConf =>
    cases q with
    | dhclientConf => rfl
    | ifcfg | dhclientLink | resolvConf => simp [name] at hchars
  | resolvConf =>
    cases q with
    | resolvConf => rfl
    | ifcfg | dhclientLink | dhclientConf => simp [name] at hchars

/-- The usual name of a managed path can be joined to a directory, as long as the device has no
slash. -/
theorem isName_name {p : ManagedPath} (hflat : p.IsFlat) : FilePath.IsName p.name := by
  cases p with
  | ifcfg device =>
    have hdevice : '/' ∉ device.toList := hflat device rfl
    refine ⟨?_, ?_⟩
    · simp [name, hdevice]
    · rw [name, String.toList_append]
      rfl
  | dhclientLink device =>
    have hdevice : '/' ∉ device.toList := hflat device rfl
    refine ⟨?_, ?_⟩
    · simp [name, hdevice]
    · rw [name, String.toList_append, String.toList_append]
      rfl
  | dhclientConf => exact ⟨by decide, by decide⟩
  | resolvConf => exact ⟨by decide, by decide⟩

end ManagedPath

namespace ConfigPaths

open ManagedPath

/-! ### Where managed paths are -/

/-- Where a managed path is. -/
def locate (paths : ConfigPaths) : ManagedPath → FilePath
  | .ifcfg device => paths.ifcfg device
  | .dhclientLink device => paths.dhclientLink device
  | .dhclientConf => paths.dhclientConf
  | .resolvConf => paths.resolvConf

/-- At a managed path there is a file or link of the usual name, in some directory. -/
def IsNamed (paths : ConfigPaths) (p : ManagedPath) : Prop :=
  ∃ dir : FilePath, paths.locate p = dir.join p.name

/-- The shared files have their usual names, in whatever directories they are. -/
structure HasUsualNames (paths : ConfigPaths) : Prop where
  dhclientConf : paths.IsNamed .dhclientConf
  resolvConf : paths.IsNamed .resolvConf

@[simp]
theorem locate_ifcfg (paths : ConfigPaths) (device : String) :
    paths.locate (.ifcfg device) = paths.ifcfg device :=
  rfl

@[simp]
theorem locate_dhclientLink (paths : ConfigPaths) (device : String) :
    paths.locate (.dhclientLink device) = paths.dhclientLink device :=
  rfl

@[simp]
theorem locate_dhclientConf (paths : ConfigPaths) :
    paths.locate .dhclientConf = paths.dhclientConf :=
  rfl

@[simp]
theorem locate_resolvConf (paths : ConfigPaths) : paths.locate .resolvConf = paths.resolvConf :=
  rfl

variable {paths : ConfigPaths} {p q : ManagedPath} {device device' : String}

theorem isNamed_ifcfg (paths : ConfigPaths) (device : String) : paths.IsNamed (.ifcfg device) :=
  ⟨paths.ifcfgDir, rfl⟩

theorem isNamed_dhclientLink (paths : ConfigPaths) (device : String) :
    paths.IsNamed (.dhclientLink device) :=
  ⟨paths.dhclientDir, rfl⟩

/-- Where the shared files keep their usual names, every managed path has its own. -/
theorem HasUsualNames.isNamed (h : paths.HasUsualNames) (p : ManagedPath) : paths.IsNamed p := by
  cases p with
  | ifcfg device => exact paths.isNamed_ifcfg device
  | dhclientLink device => exact paths.isNamed_dhclientLink device
  | dhclientConf => exact h.dhclientConf
  | resolvConf => exact h.resolvConf

/-- The shared files have their usual names unless they are put elsewhere. -/
theorem hasUsualNames_default : ({} : ConfigPaths).HasUsualNames where
  dhclientConf := ⟨⟨"/etc/dhcp"⟩, by decide⟩
  resolvConf := ⟨⟨"/etc"⟩, by decide⟩

/-- Managed paths are the same only if they are for the same. -/
theorem same_locate_iff (hp : paths.IsNamed p) (hq : paths.IsNamed q) (hflat : p.IsFlat)
    (hflat' : q.IsFlat) : (paths.locate p).same (paths.locate q) = true ↔ p = q := by
  refine ⟨fun hsame ↦ ?_, fun heq ↦ heq ▸ FilePath.same_refl _⟩
  obtain ⟨dir, hdir⟩ := hp
  obtain ⟨dir', hdir'⟩ := hq
  rw [hdir, hdir'] at hsame
  exact name_injective (FilePath.eq_of_same_join (isName_name hflat) (isName_name hflat') hsame)

/-- Different managed paths are different paths. -/
theorem not_same_locate (hp : paths.IsNamed p) (hq : paths.IsNamed q) (hflat : p.IsFlat)
    (hflat' : q.IsFlat) (hne : p ≠ q) : (paths.locate p).same (paths.locate q) = false :=
  Bool.eq_false_iff.2 fun hsame ↦ hne ((same_locate_iff hp hq hflat hflat').1 hsame)

/-- Names without slashes are those of different files. -/
theorem same_ifcfg_iff (hdevice : '/' ∉ device.toList) (hdevice' : '/' ∉ device'.toList) :
    (paths.ifcfg device).same (paths.ifcfg device') = true ↔ device = device' := by
  rw [← locate_ifcfg, ← locate_ifcfg, same_locate_iff (paths.isNamed_ifcfg device)
    (paths.isNamed_ifcfg device') (isFlat_ifcfg hdevice) (isFlat_ifcfg hdevice'),
    ManagedPath.ifcfg.injEq]

/-- Names without slashes are those of different links. -/
theorem same_dhclientLink_iff (hdevice : '/' ∉ device.toList) (hdevice' : '/' ∉ device'.toList) :
    (paths.dhclientLink device).same (paths.dhclientLink device') = true ↔ device = device' := by
  rw [← locate_dhclientLink, ← locate_dhclientLink,
    same_locate_iff (paths.isNamed_dhclientLink device) (paths.isNamed_dhclientLink device')
      (isFlat_dhclientLink hdevice) (isFlat_dhclientLink hdevice'),
    ManagedPath.dhclientLink.injEq]

/-- No link of the DHCP client is the file of an interface, whatever directories they are in. -/
theorem not_same_dhclientLink (hdevice : '/' ∉ device.toList) (hdevice' : '/' ∉ device'.toList) :
    (paths.dhclientLink device).same (paths.ifcfg device') = false := by
  have hne : ManagedPath.dhclientLink device ≠ .ifcfg device' := ManagedPath.noConfusion
  rw [← locate_dhclientLink, ← locate_ifcfg]
  exact not_same_locate (paths.isNamed_dhclientLink device) (paths.isNamed_ifcfg device')
    (isFlat_dhclientLink hdevice) (isFlat_ifcfg hdevice') hne

/-- No shared file of its usual name is the file of an interface. -/
theorem HasUsualNames.not_same_ifcfg (h : paths.HasUsualNames) (hdevice : '/' ∉ device.toList) :
    paths.dhclientConf.same (paths.ifcfg device) = false ∧
      paths.resolvConf.same (paths.ifcfg device) = false := by
  rw [← locate_dhclientConf, ← locate_resolvConf, ← locate_ifcfg]
  refine ⟨not_same_locate h.dhclientConf (paths.isNamed_ifcfg device) (by decide)
    (isFlat_ifcfg hdevice) ?_, not_same_locate h.resolvConf (paths.isNamed_ifcfg device) (by decide)
    (isFlat_ifcfg hdevice) ?_⟩
  · exact ManagedPath.noConfusion
  · exact ManagedPath.noConfusion

end ConfigPaths

/-! ### What a set of configurations needs -/

namespace InterfaceConfigs

/-- The shared files that a set of configurations needs. -/
def shared (cs : InterfaceConfigs) : List ManagedPath :=
  (if cs.hasDhcp then [.dhclientConf] else []) ++ if cs.dns.isEmpty then [] else [.resolvConf]

/-- The paths that a set of configurations needs: its files, in the order in which they are
rendered, and then its links. -/
def managed (cs : InterfaceConfigs) : List ManagedPath :=
  cs.configs.map (.ifcfg ·.device) ++ cs.shared ++ cs.dhcps.map (.dhclientLink ·.device)

variable {cs : InterfaceConfigs} {p : ManagedPath}

/-- Shared files belong to no interface. -/
theorem device?_of_mem_shared (hp : p ∈ cs.shared) : p.device? = none := by
  rcases List.mem_append.1 hp with hp | hp
  · split at hp
    · rw [List.mem_singleton.1 hp]
      rfl
    · cases hp
  · split at hp
    · cases hp
    · rw [List.mem_singleton.1 hp]
      rfl

theorem nodup_shared (cs : InterfaceConfigs) : cs.shared.Nodup := by
  unfold shared
  split
  · split
    · decide
    · decide
  · split
    · decide
    · decide

/-- The interfaces that own the paths of a set of configurations are those of the set. -/
theorem device_mem_of_mem_managed (hp : p ∈ cs.managed) {device : String}
    (hdevice : device ∈ p.device?) : device ∈ cs.configs.map (·.device) := by
  rw [managed, List.mem_append, List.mem_append] at hp
  rcases hp with (hp | hp) | hp
  · obtain ⟨c, hc, rfl⟩ := List.mem_map.1 hp
    obtain rfl := Option.some.inj hdevice
    exact List.mem_map_of_mem hc
  · rw [device?_of_mem_shared hp] at hdevice
    cases hdevice
  · obtain ⟨c, hc, rfl⟩ := List.mem_map.1 hp
    obtain rfl := Option.some.inj hdevice
    exact List.mem_map_of_mem (List.mem_of_mem_filter hc)

/-- No managed path has a slash in its name if no device has. -/
theorem isFlat_of_mem_managed (hflat : ∀ c ∈ cs.configs, '/' ∉ c.device.toList)
    (hp : p ∈ cs.managed) : p.IsFlat := by
  intro device hdevice
  obtain ⟨c, hc, rfl⟩ := List.mem_map.1 (device_mem_of_mem_managed hp hdevice)
  exact hflat c hc

theorem ifcfg_mem_managed {device : String} (h : device ∈ cs.configs.map (·.device)) :
    .ifcfg device ∈ cs.managed := by
  obtain ⟨c, hc, rfl⟩ := List.mem_map.1 h
  exact List.mem_append_left _ (List.mem_append_left _ (List.mem_map_of_mem hc))

/-- Configurations of different interfaces need every path for one thing only. -/
theorem nodup_managed (h : (cs.configs.map (·.device)).Nodup) : cs.managed.Nodup := by
  have hdhcps : (cs.dhcps.map (·.device)).Nodup := h.sublist (List.filter_sublist.map _)
  have hfiles := h.map fun _ _ ↦ ManagedPath.ifcfg.inj
  have hlinks := hdhcps.map fun _ _ ↦ ManagedPath.dhclientLink.inj
  rw [List.map_map] at hfiles hlinks
  refine (hfiles.append cs.nodup_shared ?_).append hlinks ?_
  · intro p hfile hshared
    obtain ⟨c, -, rfl⟩ := List.mem_map.1 hfile
    cases device?_of_mem_shared hshared
  · intro p hp hlink
    obtain ⟨c, -, rfl⟩ := List.mem_map.1 hlink
    rcases List.mem_append.1 hp with hfile | hshared
    · obtain ⟨d, -, heq⟩ := List.mem_map.1 hfile
      cases heq
    · cases device?_of_mem_shared hshared

end InterfaceConfigs

namespace ConfigPaths

variable {paths : ConfigPaths} {cs : InterfaceConfigs}

/-- The shared files of a set of configurations are at the paths at which they are rendered. -/
theorem map_locate_shared (paths : ConfigPaths) (cs : InterfaceConfigs) :
    cs.shared.map paths.locate =
      ((paths.dhclientFile? cs).toList ++ (paths.resolverFile? cs).toList).map (·.path) := by
  rw [InterfaceConfigs.shared, dhclientFile?, resolverFile?]
  split
  · split
    · rfl
    · rfl
  · split
    · rfl
    · rfl

/-- What is managed is what is rendered, and the links. -/
theorem map_locate_managed (paths : ConfigPaths) (cs : InterfaceConfigs) :
    cs.managed.map paths.locate = (paths.render cs).map (·.path) ++
      cs.dhcps.map fun c ↦ paths.dhclientLink c.device := by
  simp only [InterfaceConfigs.managed, render, interfaceFiles, List.append_assoc, List.map_append,
    List.map_map, map_locate_shared]
  rfl

/-- The files and links of different interfaces do not collide where the shared files have their
usual names. -/
theorem pairwise_managed (hnames : paths.HasUsualNames) (h : (cs.configs.map (·.device)).Nodup)
    (hflat : ∀ c ∈ cs.configs, '/' ∉ c.device.toList) :
    ((paths.render cs).map (·.path) ++ cs.dhcps.map fun c ↦ paths.dhclientLink c.device).Pairwise
      fun p q ↦ p.same q = false := by
  rw [← map_locate_managed, List.pairwise_map]
  refine (InterfaceConfigs.nodup_managed h).imp_of_mem fun {p q} hp hq hne ↦ ?_
  exact not_same_locate (hnames.isNamed p) (hnames.isNamed q)
    (InterfaceConfigs.isFlat_of_mem_managed hflat hp)
    (InterfaceConfigs.isFlat_of_mem_managed hflat hq) hne

/-- What belongs to interfaces never collides, wherever the directories are. In the usual places
nothing does, so the files and links of different interfaces are different paths. -/
theorem uncollided_locate :
    (∀ (paths : ConfigPaths) (d e : String), '/' ∉ d.toList → '/' ∉ e.toList →
      ((paths.ifcfg d).same (paths.ifcfg e) = true ↔ d = e) ∧
      ((paths.dhclientLink d).same (paths.dhclientLink e) = true ↔ d = e) ∧
      (paths.ifcfg d).same (paths.dhclientLink e) = false) ∧
    (∀ p q : ManagedPath, p.IsFlat → q.IsFlat →
      ((({} : ConfigPaths).locate p).same (({} : ConfigPaths).locate q) = true ↔ p = q)) ∧
    ∀ cs : InterfaceConfigs, (cs.configs.map (·.device)).Nodup →
      (∀ c ∈ cs.configs, '/' ∉ c.device.toList) →
      ((({} : ConfigPaths).render cs).map (·.path) ++
        cs.dhcps.map fun c ↦ ({} : ConfigPaths).dhclientLink c.device).Pairwise
        fun p q ↦ p.same q = false := by
  refine ⟨fun paths d e hd he ↦ ⟨same_ifcfg_iff hd he, same_dhclientLink_iff hd he, ?_⟩,
    fun p q hp hq ↦ ?_, fun cs h hflat ↦ pairwise_managed hasUsualNames_default h hflat⟩
  · rw [FilePath.same_comm]
    exact not_same_dhclientLink he hd
  · exact same_locate_iff (hasUsualNames_default.isNamed p) (hasUsualNames_default.isNamed q) hp hq

/-- One directory for files and links, spelled in two ways. -/
def oddPlaces : ConfigPaths where
  ifcfgDir := ⟨"./net//."⟩
  dhclientDir := ⟨"./net"⟩

/-- Configurations of interfaces whose names are empty, look like a parent directory or end as the
links do. -/
def oddConfigs : InterfaceConfigs where
  configs := [
    ⟨"lan", "", .static ⟨.ofOctets 10 0 0 5, .ofOctets 255 255 255 0, .ofOctets 10 0 0 255⟩,
      none, [.v4 (.ofOctets 10 0 0 1)]⟩,
    ⟨"guest", "..", .dhcp none, none, []⟩,
    ⟨"wan", "eth0.conf", .dhcp none, none, []⟩]
  dns := [.v4 (.ofOctets 10 0 0 1)]

/-- Directories that are spelled oddly, an interface without a name and one whose name looks like
that of a file: their paths are still told apart. -/
theorem uncollided_oddPlaces :
    (oddPlaces.ifcfg "").same (oddPlaces.dhclientLink ".conf") = false ∧
      (({} : ConfigPaths).locate (.dhclientLink "")).same
        (({} : ConfigPaths).locate .dhclientConf) = false ∧
      ((({} : ConfigPaths).render oddConfigs).map (·.path) ++
        oddConfigs.dhcps.map fun c ↦ ({} : ConfigPaths).dhclientLink c.device).Pairwise
        fun p q ↦ p.same q = false := by
  obtain ⟨hplaces, husual, hconfigs⟩ := uncollided_locate
  refine ⟨(hplaces oddPlaces "" ".conf" (by decide) (by decide)).2.2, ?_,
    hconfigs oddConfigs (by decide) (by decide)⟩
  have hiff := husual (.dhclientLink "") .dhclientConf (by decide) (by decide)
  exact Bool.eq_false_iff.2 fun hsame ↦ ManagedPath.noConfusion (hiff.1 hsame)

end ConfigPaths

end NetReconcile
