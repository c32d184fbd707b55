import Mathlib.Data.List.Basic
import NetReconcile.Proofs.Nameservers

/-!
# What files show of configurations

Whether a file has to be written is told by comparing texts, so texts have to differ wherever
configurations differ in what matters. They do: the texts of all files, in their order, determine
the nameservers of the host and, interface by interface, the device and the static address with its
gateway and nameservers. The name of a network, an address that DHCP assigned earlier and what a
dynamic configuration carries beside it are shown by no file.

A device name goes into its file as it is, and may contain line ends or look like settings. It is
found again from the end of the file: below it there is one line that says how the interface gets
its address, and the device name ends right before the last such line.

## Main definitions

* `InterfaceConfig.shown`, `InterfaceConfigs.shown`: what the files show.
* `InterfaceConfig.settings`: the lines below the device name.
* `isProtocolLine`: a line that says how an interface gets its address.

## Main statements

* `InterfaceConfig.ifcfg_eq_iff`: the file of an interface determines what it shows.
* `ConfigPaths.contents_render_eq_iff`: all files determine what they show, and hang on nothing
  else.

## Taking texts apart

Two ideas are used. A text of lines is determined by its lines if none of them contains a line end,
so the settings can be told from a file once it is known where they begin
(`device_settings_eq_of_ifcfg_eq`). And texts of different kinds begin with different letters, so a
list of texts can be sorted into those of interfaces, that of the DHCP client and that of the
resolver without knowing how many there are (`filter_contents_of_interfaces`).
-/

namespace NetReconcile

open Text

/-- What the file of an interface shows of its configuration. -/
structure ShownConfig where
  device : String
  /-- The address of a static interface, its gateway and its nameservers. -/
  static? : Option (StaticAddress × Option IPv4 × List IpAddress)
  deriving DecidableEq

/-- What the file of an interface shows. -/
def InterfaceConfig.shown (c : InterfaceConfig) : ShownConfig :=
  ⟨c.device, c.staticAddress?.map fun a ↦ (a, c.gateway, c.dns)⟩

/-- What all files show: the configurations, in their order, and the nameservers of the host. -/
def InterfaceConfigs.shown (cs : InterfaceConfigs) : List ShownConfig × List IpAddress :=
  (cs.configs.map (·.shown), cs.dns)

/-! ### Lines of the file of an interface -/

/-- A text without blanks is one line. -/
theorem newline_not_mem_of_isBlank {cs : List Char} (h : ∀ c ∈ cs, isBlank c = false) :
    '\n' ∉ cs := by
  intro hmem
  have hblank : isBlank '\n' = false := h _ hmem
  cases hblank

theorem newline_not_mem_append {s t : String} (hs : '\n' ∉ s.toList) (ht : '\n' ∉ t.toList) :
    '\n' ∉ (s ++ t).toList := by
  rw [String.toList_append, List.mem_append]
  exact not_or.2 ⟨hs, ht⟩

/-- Addresses are written on one line. -/
theorem IPv4.newline_not_mem_text (x : IPv4) : '\n' ∉ x.text.toList := by
  rw [text, String.toList_ofList]
  exact newline_not_mem_of_isBlank fun _ ↦ isBlank_of_mem_chars

theorem IpAddress.newline_not_mem_text (a : IpAddress) : '\n' ∉ a.text.toList := by
  rw [text, String.toList_ofList]
  exact newline_not_mem_of_isBlank fun _ ↦ isBlank_of_mem_chars

theorem newline_not_mem_dnsLines {dns : List IpAddress} {line : String}
    (h : line ∈ dnsLines dns) : '\n' ∉ line.toList := by
  obtain ⟨i, hi, rfl⟩ := List.mem_mapIdx.1 h
  have hnumber : '\n' ∉ (toString (i + 1)).toList := by
    rw [Nat.toString_eq_repr, Nat.toList_repr]
    exact newline_not_mem_of_isBlank fun _ ↦ isBlank_of_mem_toDigits (by decide) (by decide)
  exact newline_not_mem_append (newline_not_mem_append
    (newline_not_mem_append (by decide) hnumber) (by decide)) (IpAddress.newline_not_mem_text _)

namespace InterfaceConfig

/-- The lines of the file of an interface that are below its device name. -/
def settings (c : InterfaceConfig) : List String :=
  c.ifcfgLines.tail

/-- The device comes first in its file, and all else below it. -/
theorem ifcfgLines_eq (c : InterfaceConfig) :
    c.ifcfgLines = ("DEVICE=" ++ c.device) :: c.settings :=
  rfl

variable {c d : InterfaceConfig} {a : StaticAddress}

theorem settings_of_static (h : c.protocol = .static a) :
    c.settings = ["BOOTPROTO=static", "IPADDR=" ++ a.address.text, "NETMASK=" ++ a.netmask.text,
        "BROADCAST=" ++ a.broadcast.text] ++
      (c.gateway.map fun g ↦ "GATEWAY=" ++ g.text).toList ++ ["ONBOOT=yes", "PEERDNS=no"] ++
      dnsLines c.dns := by
  rw [settings, ifcfgLines, h, List.tail_cons]

theorem settings_of_dhcp {detected : Option IPv4} (h : c.protocol = .dhcp detected) :
    c.settings = ["BOOTPROTO=dhcp", "ONBOOT=yes", "PEERDNS=yes"] := by
  rw [settings, ifcfgLines, h, List.tail_cons]

/-- Below the device name, every line is one line. -/
theorem newline_not_mem_settings {line : String} (h : line ∈ c.settings) : '\n' ∉ line.toList := by
  cases hp : c.protocol with
  | dhcp detected =>
    have hall : ∀ line ∈ ["BOOTPROTO=dhcp", "ONBOOT=yes", "PEERDNS=yes"], '\n' ∉ line.toList := by
      decide
    exact hall line (settings_of_dhcp hp ▸ h)
  | static a =>
    rw [settings_of_static hp] at h
    simp only [List.mem_append, List.mem_cons, List.not_mem_nil, or_false, Option.mem_toList,
      Option.map_eq_some_iff] at h
    rcases h with (((rfl | rfl | rfl | rfl) | ⟨g, -, rfl⟩) | rfl | rfl) | h
    · decide
    · exact newline_not_mem_append (by decide) (IPv4.newline_not_mem_text _)
    · exact newline_not_mem_append (by decide) (IPv4.newline_not_mem_text _)
    · exact newline_not_mem_append (by decide) (IPv4.newline_not_mem_text _)
    · exact newline_not_mem_append (by decide) (IPv4.newline_not_mem_text _)
    · decide
    · decide
    · exact newline_not_mem_dnsLines h

end InterfaceConfig

/-! ### Where a device name ends -/

/-- Whether a line says how an interface gets its address. -/
def isProtocolLine (line : List Char) : Bool :=
  "BOOTPROTO=".toList.isPrefixOf line

/-- Two lists are the same before, at and after the last element with a property. -/
theorem append_cons_inj_of_last {α : Type} {p : α → Bool} {as as' bs bs' : List α} {b b' : α}
    (hb : p b = true) (hb' : p b' = true) (hbs : ∀ x ∈ bs, p x = false)
    (hbs' : ∀ x ∈ bs', p x = false) (h : as ++ b :: bs = as' ++ b' :: bs') :
    as = as' ∧ b = b' ∧ bs = bs' := by
  -- if one list were longer, its last such element would be after that of the other
  obtain ⟨xs, rfl, hrest⟩ | ⟨xs, rfl, hrest⟩ := List.append_eq_append_iff.1 h
  · cases xs with
    | nil => simpa using hrest
    | cons x xs =>
      obtain ⟨-, rfl⟩ := List.cons.inj hrest
      rw [hbs b' (List.mem_append_right _ List.mem_cons_self)] at hb'
      cases hb'
  · cases xs with
    | nil => simpa [eq_comm] using hrest
    | cons x xs =>
      obtain ⟨-, rfl⟩ := List.cons.inj hrest
      rw [hbs' b (List.mem_append_right _ List.mem_cons_self)] at hb
      cases hb

namespace InterfaceConfig

variable {c d : InterfaceConfig} {a : StaticAddress}

/-- The first line below the device name says how the interface gets its address, and no other line
does. -/
theorem exists_settings_eq (c : InterfaceConfig) :
    ∃ line lines, c.settings = line :: lines ∧ isProtocolLine line.toList = true ∧
      ∀ other ∈ lines, isProtocolLine other.toList = false := by
  cases hp : c.protocol with
  | dhcp detected =>
    exact ⟨_, _, settings_of_dhcp hp, by decide, by decide⟩
  | static a =>
    have hsettings := settings_of_static hp
    simp only [List.cons_append, List.nil_append, List.append_assoc] at hsettings
    refine ⟨_, _, hsettings, by decide, fun other hmem ↦ ?_⟩
    simp only [List.mem_append, List.mem_cons, Option.mem_toList, Option.map_eq_some_iff] at hmem
    rcases hmem with rfl | rfl | rfl | ⟨g, -, rfl⟩ | rfl | rfl | hmem
    · simp [isProtocolLine, List.isPrefixOf]
    · simp [isProtocolLine, List.isPrefixOf]
    · simp [isProtocolLine, List.isPrefixOf]
    · simp [isProtocolLine, List.isPrefixOf]
    · decide
    · decide
    · obtain ⟨i, hi, rfl⟩ := List.mem_mapIdx.1 hmem
      simp [isProtocolLine, List.isPrefixOf]

/-- The lines of the file of an interface are those of the device name, followed by the settings. -/
theorem splitOn_ifcfg (c : InterfaceConfig) :
    c.ifcfg.toList.splitOn '\n' = ("DEVICE=" ++ c.device).toList.splitOn '\n' ++
      (c.settings.map String.toList ++ [[]]) := by
  have htext : c.ifcfg.toList =
      ("DEVICE=" ++ c.device).toList ++ '\n' :: (linesText c.settings).toList := by
    simp [ifcfg, ifcfgLines_eq, linesText]
  rw [← splitOn_linesText fun _ ↦ newline_not_mem_settings, htext]
  exact List.splitOnP_append_cons _ _ (beq_self_eq_true '\n')

/-- The file of an interface determines its device and its settings. -/
theorem device_settings_eq_of_ifcfg_eq (h : c.ifcfg = d.ifcfg) :
    c.device = d.device ∧ c.settings = d.settings := by
  obtain ⟨line, lines, hc, hline, hlines⟩ := c.exists_settings_eq
  obtain ⟨line', lines', hd, hline', hlines'⟩ := d.exists_settings_eq
  have hsplit : c.ifcfg.toList.splitOn '\n' = d.ifcfg.toList.splitOn '\n' := by rw [h]
  rw [splitOn_ifcfg, splitOn_ifcfg, hc, hd] at hsplit
  -- the empty text after the last line end is no such line either
  have hlater : ∀ ls : List String, (∀ other ∈ ls, isProtocolLine other.toList = false) →
      ∀ other ∈ ls.map String.toList ++ [[]], isProtocolLine other = false := by
    intro ls hls other hmem
    rcases List.mem_append.1 hmem with hmem | hmem
    · obtain ⟨s, hs, rfl⟩ := List.mem_map.1 hmem
      exact hls s hs
    · rw [List.mem_singleton.1 hmem]
      rfl
  obtain ⟨hdevice, hfirst, hrest⟩ := append_cons_inj_of_last hline hline' (hlater lines hlines)
    (hlater lines' hlines') hsplit
  refine ⟨?_, ?_⟩
  · have hjoined := congrArg ['\n'].intercalate hdevice
    rw [List.intercalate_splitOn, List.intercalate_splitOn] at hjoined
    exact (String.append_right_inj _).1 (String.toList_inj.1 hjoined)
  · rw [hc, hd, String.toList_inj.1 hfirst,
      List.map_injective_iff.2 (fun _ _ ↦ String.toList_inj.1) (List.append_cancel_right hrest)]

/-! ### What the settings show -/

/-- The lines of the nameservers determine them, with their order. -/
theorem dnsLines_injective : Function.Injective dnsLines := by
  intro dns dns' h
  have hlength : dns.length = dns'.length := by simpa [dnsLines] using congrArg List.length h
  refine List.ext_getElem hlength fun i hi hi' ↦ ?_
  have hline : (dnsLines dns)[i]? = (dnsLines dns')[i]? := by rw [h]
  simp only [dnsLines, List.getElem?_mapIdx, List.getElem?_eq_getElem hi,
    List.getElem?_eq_getElem hi', Option.map_some, Option.some.injEq,
    String.append_right_inj] at hline
  exact IpAddress.text_injective hline

/-- The settings of a static interface determine its address, its gateway and its nameservers. -/
theorem static_eq_of_settings_eq {b : StaticAddress} (hc : c.protocol = .static a)
    (hd : d.protocol = .static b) (h : c.settings = d.settings) :
    a = b ∧ c.gateway = d.gateway ∧ c.dns = d.dns := by
  rw [settings_of_static hc, settings_of_static hd] at h
  simp only [List.cons_append, List.nil_append, List.append_assoc, List.cons.injEq, true_and,
    String.append_right_inj] at h
  obtain ⟨haddress, hnetmask, hbroadcast, hrest⟩ := h
  refine ⟨?_, ?_⟩
  · cases a
    cases b
    simp_all [IPv4.text_injective.eq_iff]
  · -- the line after the broadcast address tells whether there is a gateway
    cases hg : c.gateway with
    | none =>
      cases hg' : d.gateway with
      | none => simpa [hg, hg', dnsLines_injective.eq_iff] using hrest
      | some g' =>
        rw [hg, hg'] at hrest
        exact absurd (congrArg (·.toList.head?) (List.cons.inj hrest).1) (by simp)
    | some g =>
      cases hg' : d.gateway with
      | none =>
        rw [hg, hg'] at hrest
        exact absurd (congrArg (·.toList.head?) (List.cons.inj hrest).1) (by simp)
      | some g' =>
        simpa [hg, hg', dnsLines_injective.eq_iff, IPv4.text_injective.eq_iff,
          String.append_right_inj] using hrest

/-- The lines below the device determine all that is shown beside it. -/
theorem shown_eq_of_settings_eq (hdevice : c.device = d.device) (h : c.settings = d.settings) :
    c.shown = d.shown := by
  cases hc : c.protocol with
  | static a =>
    cases hd : d.protocol with
    | static b =>
      obtain ⟨rfl, hgateway, hdns⟩ := static_eq_of_settings_eq hc hd h
      simp [shown, staticAddress?, hc, hd, hdevice, hgateway, hdns]
    | dhcp detected =>
      rw [settings_of_static hc, settings_of_dhcp hd] at h
      exact absurd (List.cons.inj h).1 (by decide)
  | dhcp detected =>
    cases hd : d.protocol with
    | static b =>
      rw [settings_of_dhcp hc, settings_of_static hd] at h
      exact absurd (List.cons.inj h).1 (by decide)
    | dhcp detected' => simp [shown, staticAddress?, hc, hd, hdevice]

/-- Files show whether an interface is configured by DHCP. -/
theorem isDhcp_eq_of_shown_eq (h : c.shown = d.shown) : c.isDhcp = d.isDhcp := by
  obtain ⟨-, hstatic⟩ := ShownConfig.mk.inj h
  unfold isDhcp
  cases hc : c.protocol with
  | static a =>
    cases hd : d.protocol with
    | static b => rfl
    | dhcp detected => simp [staticAddress?, hc, hd] at hstatic
  | dhcp detected =>
    cases hd : d.protocol with
    | static b => simp [staticAddress?, hc, hd] at hstatic
    | dhcp detected' => rfl

/-- The lines of a file hang on nothing but what the file shows. -/
theorem ifcfgLines_eq_of_shown_eq (h : c.shown = d.shown) : c.ifcfgLines = d.ifcfgLines := by
  obtain ⟨hdevice, hstatic⟩ := ShownConfig.mk.inj h
  have hsettings : c.settings = d.settings := by
    cases hc : c.protocol with
    | static a =>
      cases hd : d.protocol with
      | static b =>
        obtain ⟨rfl, hgateway, hdns⟩ : a = b ∧ c.gateway = d.gateway ∧ c.dns = d.dns := by
          simpa [staticAddress?, hc, hd] using hstatic
        rw [settings_of_static hc, settings_of_static hd, hgateway, hdns]
      | dhcp detected => simp [staticAddress?, hc, hd] at hstatic
    | dhcp detected =>
      cases hd : d.protocol with
      | static b => simp [staticAddress?, hc, hd] at hstatic
      | dhcp detected' => rw [settings_of_dhcp hc, settings_of_dhcp hd]
  rw [ifcfgLines_eq, ifcfgLines_eq, hdevice, hsettings]

/-- The file of an interface determines what it shows, and hangs on nothing else. -/
theorem ifcfg_eq_iff : c.ifcfg = d.ifcfg ↔ c.shown = d.shown := by
  constructor
  · intro h
    obtain ⟨hdevice, hsettings⟩ := device_settings_eq_of_ifcfg_eq h
    exact shown_eq_of_settings_eq hdevice hsettings
  · intro h
    rw [ifcfg, ifcfg, ifcfgLines_eq_of_shown_eq h]

end InterfaceConfig

/-! ### All files -/

/-- Lists that are the same under one map are the same under any map that tells no more apart. -/
theorem map_eq_map_of_imp {α β γ : Type} {f : α → β} {g : α → γ}
    (h : ∀ a b, f a = f b → g a = g b) {as bs : List α} (hf : as.map f = bs.map f) :
    as.map g = bs.map g := by
  induction as generalizing bs with
  | nil =>
    rw [List.map_nil, eq_comm, List.map_eq_nil_iff] at hf
    rw [hf]
  | cons a as ih =>
    cases bs with
    | nil => cases hf
    | cons b bs =>
      obtain ⟨hhead, htail⟩ := List.cons.inj hf
      rw [List.map_cons, List.map_cons, h a b hhead, ih htail]

/-- Whether a text starts with a character. -/
def startsWith (c : Char) (text : String) : Bool :=
  text.toList.head? = some c

theorem startsWith_ifcfg (c : Char) (config : InterfaceConfig) :
    startsWith c config.ifcfg = ('D' = c) := by
  simp [startsWith, InterfaceConfig.ifcfg, InterfaceConfig.ifcfgLines, linesText]

theorem startsWith_dhclientConf (c : Char) (dns : List IpAddress) :
    startsWith c (dhclientConf dns) = ('#' = c) := by
  simp [startsWith, dhclientConf, dhclientHeader, linesText]

theorem startsWith_resolvConf (c : Char) {dns : List IpAddress} (h : dns ≠ []) :
    startsWith c (resolvConf dns) = ('n' = c) := by
  obtain ⟨server, servers, rfl⟩ := List.exists_cons_of_ne_nil h
  simp [startsWith, resolvConf, linesText]

namespace ConfigPaths

variable {paths : ConfigPaths} {cs ds : InterfaceConfigs}

/-- The texts of all files, in the order in which they are rendered. -/
theorem contents_render (paths : ConfigPaths) (cs : InterfaceConfigs) :
    (paths.render cs).map (·.contents) = cs.configs.map (·.ifcfg) ++
      ((if cs.hasDhcp then [NetReconcile.dhclientConf cs.dns] else []) ++
        if cs.dns = [] then [] else [NetReconcile.resolvConf cs.dns]) := by
  rw [render, List.map_append, List.map_append, List.append_assoc, interfaceFiles, List.map_map,
    dhclientFile?, resolverFile?]
  congr 1
  cases cs.hasDhcp <;> cases cs.dns <;> rfl

/-- The files of interfaces are told from the others by how they start. -/
theorem filter_contents_of_interfaces (paths : ConfigPaths) (cs : InterfaceConfigs) :
    ((paths.render cs).map (·.contents)).filter (startsWith 'D') = cs.configs.map (·.ifcfg) := by
  have hinterfaces : (cs.configs.map (·.ifcfg)).filter (startsWith 'D') =
      cs.configs.map (·.ifcfg) := by
    refine List.filter_eq_self.2 fun text hmem ↦ ?_
    obtain ⟨c, -, rfl⟩ := List.mem_map.1 hmem
    simp [startsWith_ifcfg]
  have hshared : ((if cs.hasDhcp then [NetReconcile.dhclientConf cs.dns] else []) ++
      if cs.dns = [] then [] else [NetReconcile.resolvConf cs.dns]).filter (startsWith 'D') =
        [] := by
    refine List.filter_eq_nil_iff.2 fun text hmem ↦ ?_
    by_cases hdns : cs.dns = []
    · simp_all [startsWith_dhclientConf]
    · rcases List.mem_append.1 hmem with hmem | hmem
      · simp_all [startsWith_dhclientConf]
      · simp_all [startsWith_resolvConf]
  rw [contents_render, List.filter_append, hinterfaces, hshared, List.append_nil]

/-- The resolver file is told from the others by how it starts. -/
theorem filter_contents_of_resolver (paths : ConfigPaths) (cs : InterfaceConfigs) :
    ((paths.render cs).map (·.contents)).filter (startsWith 'n') =
      if cs.dns = [] then [] else [NetReconcile.resolvConf cs.dns] := by
  have hinterfaces : (cs.configs.map (·.ifcfg)).filter (startsWith 'n') = [] := by
    refine List.filter_eq_nil_iff.2 fun text hmem ↦ ?_
    obtain ⟨c, -, rfl⟩ := List.mem_map.1 hmem
    simp [startsWith_ifcfg]
  have hdhclient : (if cs.hasDhcp then [NetReconcile.dhclientConf cs.dns] else []).filter
      (startsWith 'n') = [] := by
    cases cs.hasDhcp <;> simp [startsWith_dhclientConf]
  rw [contents_render, List.filter_append, List.filter_append, hinterfaces, hdhclient]
  by_cases hdns : cs.dns = []
  · simp [hdns]
  · simp [hdns, startsWith_resolvConf]

/-- The nameservers of the host can be read off the texts of all files. -/
theorem dns_eq_of_contents_eq
    (h : (paths.render cs).map (·.contents) = (paths.render ds).map (·.contents)) :
    cs.dns = ds.dns := by
  have hresolver := congrArg (List.filter (startsWith 'n')) h
  rw [filter_contents_of_resolver, filter_contents_of_resolver] at hresolver
  by_cases hc : cs.dns = []
  · by_cases hd : ds.dns = []
    · rw [hc, hd]
    · simp [hc, hd] at hresolver
  · by_cases hd : ds.dns = []
    · simp [hc, hd] at hresolver
    · have htext : NetReconcile.resolvConf cs.dns = NetReconcile.resolvConf ds.dns := by
        simpa [hc, hd] using hresolver
      rw [← parseNameservers_resolvConf cs.dns, htext, parseNameservers_resolvConf]

/-- What the texts of all files show is determined by them. -/
theorem shown_eq_of_contents_eq
    (h : (paths.render cs).map (·.contents) = (paths.render ds).map (·.contents)) :
    cs.shown = ds.shown := by
  have hinterfaces := congrArg (List.filter (startsWith 'D')) h
  rw [filter_contents_of_interfaces, filter_contents_of_interfaces] at hinterfaces
  have hconfigs : cs.configs.map (·.shown) = ds.configs.map (·.shown) :=
    map_eq_map_of_imp (fun _ _ ↦ InterfaceConfig.ifcfg_eq_iff.1) hinterfaces
  rw [InterfaceConfigs.shown, InterfaceConfigs.shown, hconfigs, dns_eq_of_contents_eq h]

/-- All files, with their paths, hang on nothing but what they show. -/
theorem render_eq_of_shown_eq (paths : ConfigPaths) (h : cs.shown = ds.shown) :
    paths.render cs = paths.render ds := by
  obtain ⟨hconfigs, hdns⟩ := Prod.mk.inj h
  have hinterfaces : paths.interfaceFiles cs = paths.interfaceFiles ds := by
    refine map_eq_map_of_imp (fun c d hshown ↦ ?_) hconfigs
    rw [(ShownConfig.mk.inj hshown).1, InterfaceConfig.ifcfg_eq_iff.2 hshown]
  have hdhcp : cs.configs.map (·.isDhcp) = ds.configs.map (·.isDhcp) :=
    map_eq_map_of_imp (fun _ _ ↦ InterfaceConfig.isDhcp_eq_of_shown_eq) hconfigs
  have hany : cs.hasDhcp = ds.hasDhcp := by
    have hor := congrArg (List.any · id) hdhcp
    rwa [List.any_map, List.any_map] at hor
  rw [render, render, hinterfaces, dhclientFile?, dhclientFile?, resolverFile?, resolverFile?,
    hany, hdns]

/-- The texts of all files, in their order, determine what they show, and so do the files with their
paths; neither hangs on anything else. -/
theorem contents_render_eq_iff (paths : ConfigPaths) (cs ds : InterfaceConfigs) :
    ((paths.render cs).map (·.contents) = (paths.render ds).map (·.contents) ↔
        cs.shown = ds.shown) ∧
      (paths.render cs = paths.render ds ↔ cs.shown = ds.shown) := by
  refine ⟨⟨shown_eq_of_contents_eq, fun h ↦ ?_⟩, fun h ↦ ?_, paths.render_eq_of_shown_eq⟩
  · rw [paths.render_eq_of_shown_eq h]
  · exact shown_eq_of_contents_eq (by rw [h])

end ConfigPaths

end NetReconcile
