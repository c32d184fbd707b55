import NetReconcile.Proofs.Binding.Detection
import NetReconcile.Proofs.Binding.Resolution
import NetReconcile.Proofs.FileTree.Walk
import NetReconcile.Proofs.Text.ByteOrder
import NetReconcile.Proofs.Text.Sorted
import NetReconcile.Sysfs

/-!
# From the entries of a directory to bindings

An interface is found by its hardware address if the kernel shows a device behind it and an address
that can be read and is not blank. Where several interfaces have one address, the one whose name
comes first in the order of bytes is found. An interface whose address cannot be read has no part in
this, and has no part in what is found of the others. A network that names a hardware address is
bound to the interface that is found by it, however either of them spells the address.

## Main definitions

* `Sysfs.Carries`: an entry that is a physical interface and has a hardware address.
* `Sysfs.Leads`: the first of the entries that have a hardware address.
* `Sysfs.shown`: the interfaces that a directory shows.
* `Sysfs.Discovered`: what an inventory of a directory comes to.

## Main statements

* `Sysfs.mem_detect_shown_iff`: what is entered for the entries of a directory.
* `exists_mem_bindings_iff`: what a network that names an interface is bound to.
* `Sysfs.exists_discovered`: every directory that can be listed is discovered.

## From files to names

Each statement here is about one more of the functions between a directory and a binding, and says
what it comes to in terms of the files: first the text of one `address` file, then one entry with
its device, then the list of all entries, then the table that is detected from it. `Leads` is where
the order comes in. Entries are listed in the order of their names, and the table keeps the first
interface with an address, so the interface that is found is the least one that carries it.
-/

namespace NetReconcile

/-! ### Entries of a directory -/

namespace FileTree

variable {t : FileTree} {loc : Location} {name : String}

theorem mem_names_iff : name ∈ t.names loc ↔ (t.get? (name :: loc)).isSome = true := by
  rw [names, List.mem_mergeSort, List.mem_filterMap, get?, if_neg (List.cons_ne_nil _ _), find?,
    Option.isSome_map, List.find?_isSome]
  constructor
  · rintro ⟨⟨entry, node⟩, hmem, hname⟩
    refine ⟨_, hmem, decide_eq_true ?_⟩
    match entry with
    | [] => cases hname
    | name' :: parent =>
      obtain ⟨rfl, rfl⟩ : parent = loc ∧ name' = name := by
        simpa only [Option.ite_none_right_eq_some, Option.some.injEq] using hname
      rfl
  · rintro ⟨⟨entry, node⟩, hmem, hentry⟩
    refine ⟨_, hmem, ?_⟩
    obtain rfl : entry = name :: loc := of_decide_eq_true hentry
    simp

/-- Directories are listed in the order of bytes. -/
theorem pairwise_names (t : FileTree) (loc : Location) : (t.names loc).Pairwise (· ≤ ·) :=
  pairwise_mergeSort_names _

end FileTree

/-! ### Physical interfaces and their addresses -/

namespace Sysfs

open FileTree

variable {t : FileTree} {dir : FilePath} {loc : Location} {name mac : String}

/-- An entry of a directory is a physical interface and has a hardware address. -/
structure Carries (t : FileTree) (dir : FilePath) (loc : Location) (name mac : String) : Prop where
  isEntry : (t.get? (name :: loc)).isSome = true
  isPhysical : t.pathExists ((dir.join name).join "device") = true
  address : ∃ text, t.readText ((dir.join name).join "address") = .ok text ∧
    Text.lowerAscii (Text.trim text) = mac
  ne_empty : mac ≠ ""

/-- Of the entries of a directory that have a hardware address, one has the first name. -/
def Leads (t : FileTree) (dir : FilePath) (loc : Location) (mac name : String) : Prop :=
  Carries t dir loc name mac ∧
    ∀ other, Carries t dir loc other mac → ¬Text.toBytes other < Text.toBytes name

theorem interface_name (t : FileTree) (dir : FilePath) (name : String) :
    (interface t dir name).1.name = name := by
  rw [interface]
  split <;> rfl

theorem macOfText?_eq_some_iff {text : String} :
    macOfText? text = some mac ↔ Text.lowerAscii (Text.trim text) = mac ∧ mac ≠ "" := by
  rw [macOfText?]
  constructor
  · intro h
    obtain ⟨hne, h⟩ := Option.ite_none_left_eq_some.1 h
    obtain rfl := Option.some.inj h
    exact ⟨rfl, hne⟩
  · rintro ⟨rfl, hne⟩
    exact if_neg hne

/-- An entry has a hardware address if its `address` file can be read and is not blank. -/
theorem mac?_eq_some_iff : (mac? t dir name).1 = some mac ↔
    ∃ text, t.readText ((dir.join name).join "address") = .ok text ∧
      Text.lowerAscii (Text.trim text) = mac ∧ mac ≠ "" := by
  unfold mac?
  generalize t.readText ((dir.join name).join "address") = read
  cases read with
  | ok text =>
    dsimp only
    rw [macOfText?_eq_some_iff]
    refine ⟨fun h ↦ ⟨text, rfl, h⟩, ?_⟩
    rintro ⟨text', htext, h⟩
    rw [Except.ok.inj htext]
    exact h
  | error e =>
    dsimp only
    exact ⟨nofun, fun ⟨_, htext, _⟩ ↦ nomatch htext⟩

/-- The address counts only where there is a device. -/
theorem physicalMac?_interface_eq (t : FileTree) (dir : FilePath) (name : String) :
    (interface t dir name).1.physicalMac? =
      if t.pathExists ((dir.join name).join "device") then (mac? t dir name).1 else none := by
  unfold interface
  split <;> rfl

/-- The addresses by which entries of a directory can be found. -/
theorem physicalMac?_interface_eq_some_iff (hname : name ∈ t.names loc) :
    (interface t dir name).1.physicalMac? = some mac ↔ Carries t dir loc name mac := by
  rw [physicalMac?_interface_eq, Option.ite_none_right_eq_some, mac?_eq_some_iff]
  constructor
  · rintro ⟨hdevice, text, htext, hlower, hne⟩
    exact ⟨mem_names_iff.1 hname, hdevice, ⟨text, htext, hlower⟩, hne⟩
  · rintro ⟨-, hdevice, ⟨text, htext, hlower⟩, hne⟩
    exact ⟨hdevice, text, htext, hlower, hne⟩

/-! ### The table of a directory -/

/-- The interfaces that a directory shows. -/
def shown (t : FileTree) (dir : FilePath) (loc : Location) : List Interface :=
  (t.names loc).map fun name ↦ (interface t dir name).1

/-- The inventory of a directory that can be listed is what it shows. Entries that cannot be read
are reported, and are no failure. -/
theorem interfaces_eq_of_directory (hdir : directory t dir = .ok loc) :
    ∃ events, interfaces t dir = .ok (shown t dir loc, events) := by
  refine ⟨((t.names loc).map (interface t dir)).flatMap (·.2), ?_⟩
  rw [interfaces, hdir, shown]
  simp only [bind, Except.bind, pure, Except.pure, List.map_map, Function.comp_def]

/-- Every entry of the directory is shown, under its own name. -/
theorem names_shown (t : FileTree) (dir : FilePath) (loc : Location) :
    (shown t dir loc).map (·.name) = t.names loc := by
  rw [shown, List.map_map]
  exact List.map_id'' (interface_name t dir) _

/-- An address leads to the first entry that has it. -/
theorem device?_detect_shown_eq_some_iff :
    (detect (shown t dir loc)).1.device? mac = some name ↔ Leads t dir loc mac name := by
  have hdevice : (detect (shown t dir loc)).1.device? mac =
      (t.names loc).find? fun name ↦ (interface t dir name).1.physicalMac? = some mac := by
    have hname : (fun i : Interface ↦ i.name) ∘ (fun name ↦ (interface t dir name).1) = id :=
      funext (interface_name t dir)
    rw [device?_detect, shown, List.find?_map, Option.map_map, hname, Option.map_id, id_eq,
      Function.comp_def]
  rw [hdevice, find?_eq_some_iff_of_pairwise_le (t.pairwise_names loc)]
  simp only [decide_eq_true_eq]
  constructor
  · rintro ⟨⟨hname, hmac⟩, hleast⟩
    refine ⟨(physicalMac?_interface_eq_some_iff hname).1 hmac, fun other hother hlt ↦ ?_⟩
    have hmem := mem_names_iff.2 hother.isEntry
    have hle := hleast other hmem ((physicalMac?_interface_eq_some_iff hmem).2 hother)
    exact String.not_lt.2 hle (Text.toBytes_lt_toBytes_iff.1 hlt)
  · rintro ⟨hcarries, hfirst⟩
    have hname := mem_names_iff.2 hcarries.isEntry
    refine ⟨⟨hname, (physicalMac?_interface_eq_some_iff hname).2 hcarries⟩, ?_⟩
    intro other hmem hmac
    have hnot := hfirst other ((physicalMac?_interface_eq_some_iff hmem).1 hmac)
    exact String.not_lt.1 fun hlt ↦ hnot (Text.toBytes_lt_toBytes_iff.2 hlt)

/-- An address is entered for the first of the entries that have it, and for no other one. -/
theorem mem_detect_shown_iff :
    (mac, name) ∈ (detect (shown t dir loc)).1 ↔ Leads t dir loc mac name := by
  rw [← MacTable.device?_eq_some_iff (nodup_keys_detect _), device?_detect_shown_eq_some_iff]

end Sysfs

/-! ### What networks that name an interface are bound to -/

section

variable {networks : Networks} {table : MacTable} {bindings : List Binding}
  {events events' : List Event} {network mac : String} {spec : NetworkSpec}

/-- Declared networks have different names. -/
theorem spec_eq_of_mem {spec' : NetworkSpec} (h : (network, spec) ∈ networks.entries)
    (h' : (network, spec') ∈ networks.entries) : spec = spec' := by
  have hn : (networks.entries.map (·.1)).Nodup :=
    List.pairwise_map.2 (networks.sorted.imp String.ne_of_lt)
  exact congrArg Prod.snd (List.inj_on_of_nodup_map hn h h' rfl)

/-- Where binding succeeds, a network that names a hardware address is bound to the interface that
the table has for it, and to no other. -/
theorem exists_mem_bindings_iff
    (hbind : resolveBindings networks table events = .ok bindings events')
    (hmem : (network, spec) ∈ networks.entries) (hvip : spec.isVip = false)
    (hmac : spec.macAddress? = some mac) (device : String) :
    (∃ b ∈ bindings, b.network = network ∧ b.device = device) ↔
      table.device? mac = some device := by
  have hresult : bindingResult networks table events = .ok bindings := by
    rw [bindingResult, hbind]
  obtain ⟨hnodup, hcompletes⟩ := bindingResult_eq_ok_iff.1 hresult
  constructor
  · rintro ⟨b, hb, rfl, rfl⟩
    obtain ⟨hdeclared, -⟩ := (hcompletes.sound hnodup).1 b hb
    have hspec := spec_eq_of_mem hmem hdeclared
    have hnamed : b ∈ namedBindings table networks.entries := by
      rcases hcompletes with ⟨-, rfl⟩ | ⟨name, spec', mac', device, hunnamed, -, rfl⟩
      · exact hb
      · rcases List.mem_append.1 hb with hb | hb
        · exact hb
        · -- the network that is bound last names no hardware address
          obtain rfl := List.mem_singleton.1 hb
          have hlast : (name, spec') ∈ unnamedNetworks networks.entries := by
            rw [hunnamed]
            exact List.mem_singleton_self _
          have hnone := (List.mem_filter.1 hlast).2
          obtain rfl : spec = spec' := hspec
          simp [hmac] at hnone
    obtain ⟨-, -, mac', hmac', hdevice⟩ := mem_namedBindings_iff.1 hnamed
    rw [← hspec, hmac] at hmac'
    rw [Option.some.inj hmac', hdevice]
  · intro hdevice
    refine ⟨⟨network, spec, device⟩, ?_, rfl, rfl⟩
    have hnamed : (⟨network, spec, device⟩ : Binding) ∈ namedBindings table networks.entries :=
      mem_namedBindings_iff.2 ⟨hmem, hvip, mac, hmac, hdevice⟩
    rcases hcompletes with ⟨-, rfl⟩ | ⟨_, _, _, _, -, -, rfl⟩
    · exact hnamed
    · exact List.mem_append_left _ hnamed

end

/-! ### End to end -/

namespace Sysfs

open FileTree

/-- What the interfaces that were read from a directory come to. -/
structure Discovered (t : FileTree) (dir : FilePath) (loc : Location)
    (interfaces : List Interface) : Prop where
  /-- Every entry is listed, also one whose address cannot be read. -/
  names_eq : interfaces.map (·.name) = t.names loc
  /-- An address is entered for the first entry that has it. -/
  mem_detect_iff : ∀ mac name, (mac, name) ∈ (detect interfaces).1 ↔ Leads t dir loc mac name
  /-- A network that names an address is bound to the first entry that has it, however the two of
  them spell it. -/
  bound_iff : ∀ (networks : Networks) (events events' : List Event) (bindings : List Binding),
    resolveBindings networks (detect interfaces).1 events = .ok bindings events' →
      ∀ network spec text, (network, spec) ∈ networks.entries → spec.isVip = false →
        spec.mac = some text → Text.trim text ≠ "" →
          ∀ name, (∃ b ∈ bindings, b.network = network ∧ b.device = name) ↔
            Leads t dir loc (Text.lowerAscii (Text.trim text)) name

variable {t : FileTree} {dir : FilePath} {loc : Location}

/-- Every directory that can be listed is discovered. -/
theorem exists_discovered (hdir : directory t dir = .ok loc) :
    ∃ found events, interfaces t dir = .ok (found, events) ∧ Discovered t dir loc found := by
  obtain ⟨events, hfound⟩ := interfaces_eq_of_directory hdir
  refine ⟨shown t dir loc, events, hfound, ?_⟩
  exact {
    names_eq := names_shown t dir loc
    mem_detect_iff := fun _ _ ↦ mem_detect_shown_iff
    bound_iff := fun networks events events' bindings hbind network spec text hmem hvip htext
        hblank name ↦ by
      have hmac : spec.macAddress? = some (Text.lowerAscii (Text.trim text)) := by
        simp [NetworkSpec.macAddress?, htext, Option.filter, hblank]
      rw [exists_mem_bindings_iff hbind hmem hvip hmac, device?_detect_shown_eq_some_iff] }

/-- The interfaces of a machine with two network cards whose addresses differ in the case of their
letters alone, a third card whose address cannot be read, and a bond without a device. -/
def bonded : FileTree where
  entries := [(["net"], .directory 0o755),
    (["eth1", "net"], .directory 0o755), (["device", "eth1", "net"], .directory 0o755),
    (["address", "eth1", "net"], .file (Text.toBytes "AA\n") false),
    (["eth0", "net"], .directory 0o755), (["device", "eth0", "net"], .directory 0o755),
    (["address", "eth0", "net"], .file (Text.toBytes "aa\n") false),
    (["eth2", "net"], .directory 0o755), (["device", "eth2", "net"], .directory 0o755),
    (["bond0", "net"], .directory 0o755),
    (["address", "bond0", "net"], .file (Text.toBytes "aa\n") false)]

/-- The machine with two cards of one address: the one whose name comes first is found. -/
theorem exists_discovered_bonded :
    directory bonded ⟨"net"⟩ = .ok ["net"] ∧
      ∃ found events, interfaces bonded ⟨"net"⟩ = .ok (found, events) ∧
        Discovered bonded ⟨"net"⟩ ["net"] found := by
  have hpath : checkPath ⟨"net"⟩ = .ok ["net"] := checkPath_eq_ok_iff.2 (by decide +kernel)
  have hsize : "net".utf8ByteSize = 3 := by decide +kernel
  have hdir : directory bonded ⟨"net"⟩ = .ok ["net"] := by
    simp [directory, openPath, locate, hpath, hsize, walk, bonded, get?, find?, origin, isIdle,
      ofWalk, nameLimit, FilePath.isAbsolute, bind, Except.bind, pure, Except.pure]
  exact ⟨hdir, exists_discovered hdir⟩

end Sysfs

end NetReconcile
