import NetReconcile.Proofs.Checks
import NetReconcile.Proofs.Json.Decode
import NetReconcile.Proofs.NameMap
import NetReconcile.Settings

/-!
# Reading settings back

Networks can be written as settings in many ways. The networks stand in any order, and so do the
fields of each; the kind of a static network has three words; a field that has the value of a
missing field can be left out, and a missing literal can also be given as null; and JSON has its own
freedom in writing strings and spaces. All these texts are read as the networks that were written.

## Main definitions

* `Settings.Form`: the ways to write networks as settings.

## Main statements

* `Settings.exists_form`: all networks can be written as settings.
* `Settings.Form.unique`: what is written tells which networks were.
* `Settings.ofText_and_ofFile_of_form`: networks are read back from settings, given as a text or in
  a file.

## Fields in any order

The reader of a network keeps, for every field, whether it has been read and as what. What it knows
after some fields is therefore a function of the set of these fields and of the network that is
written, `readSpec`. One field more is one step of this function (`readsMember_specMember`),
whatever the others were, and when all that are written have been read, the missing ones have the
values that the network has too. No order of the fields is ever compared with another one.
-/

namespace NetReconcile.Settings

open Json

/-! ### The ways to write settings -/

/-- The words for a kind of network. -/
def kindWords : NetworkKind → List String
  | .static => ["static", "manual", ""]
  | .dynamic => ["dynamic"]
  | .vip => ["vip"]

/-- The ways to write the kind of a network. -/
def KindForm (kind : NetworkKind) (cs : List Char) : Prop :=
  ∃ word ∈ kindWords kind, StringForm word cs

/-- The ways to write a default role. -/
def RoleForm : DefaultRole → List Char → Prop
  | .gateway => StringForm "gateway"
  | .dns => StringForm "dns"

/-- The fields of a network. -/
inductive Field
  | kind
  | ip
  | netmask
  | gateway
  | dns
  | mac
  | default
  deriving DecidableEq

namespace Field

/-- The key of a field. -/
def key : Field → String
  | kind => "type"
  | ip => "ip"
  | netmask => "netmask"
  | gateway => "gateway"
  | dns => "dns"
  | mac => "mac"
  | default => "default"

/-- The ways to write the value that a field of a network has. -/
def Form (spec : NetworkSpec) : Field → List Char → Prop
  | kind => KindForm spec.kind
  | ip => NullableForm StringForm spec.ip
  | netmask => NullableForm StringForm spec.netmask
  | gateway => NullableForm StringForm spec.gateway
  | dns => ListForm StringForm spec.dns
  | mac => NullableForm StringForm spec.mac
  | default => ListForm RoleForm spec.default

/-- The field has the value of a missing field. -/
def IsOmittable (spec : NetworkSpec) : Field → Prop
  | kind => spec.kind = .static
  | ip => spec.ip = none
  | netmask => spec.netmask = none
  | gateway => spec.gateway = none
  | dns => spec.dns = []
  | mac => spec.mac = none
  | default => spec.default = []

end Field

/-- The ways to write a network: its fields in any order, without some that have the values of
missing fields. -/
def SpecForm (spec : NetworkSpec) (cs : List Char) : Prop :=
  ∃ fields : List Field, fields.Nodup ∧ (∀ field, field ∉ fields → field.IsOmittable spec) ∧
    ObjectForm (Field.Form spec) (fields.map fun field ↦ (field.key, field)) cs

/-- The ways to write networks: in any order, each under its name. -/
def NetworksForm (networks : Networks) (cs : List Char) : Prop :=
  ∃ entries : List (String × NetworkSpec), entries.Perm networks.entries ∧
    ObjectForm SpecForm entries cs

/-- The ways to write networks as settings. -/
inductive Form (networks : Networks) : List Char → Prop
  | intro {before cs after : List Char} (hbefore : Spaces before)
      (h : ObjectForm NetworksForm [("networks", networks)] cs) (hafter : Spaces after) :
      Form networks (before ++ (cs ++ after))

variable {networks : Networks} {spec : NetworkSpec} {cs sp : List Char}

theorem Field.exists_form (spec : NetworkSpec) (field : Field) : ∃ cs, field.Form spec cs := by
  cases field with
  | kind =>
    obtain ⟨word, hword⟩ : ∃ word, word ∈ kindWords spec.kind := by
      cases spec.kind <;> exact ⟨_, List.mem_cons_self⟩
    obtain ⟨cs, hcs⟩ := exists_stringForm word
    exact ⟨cs, word, hword, hcs⟩
  | ip | netmask | gateway | mac => exact exists_nullableForm exists_stringForm _
  | dns => exact exists_listForm exists_stringForm _
  | default =>
    refine exists_listForm (fun role ↦ ?_) _
    cases role <;> exact exists_stringForm _

theorem exists_specForm (spec : NetworkSpec) : ∃ cs, SpecForm spec cs := by
  let fields : List Field := [.kind, .ip, .netmask, .gateway, .dns, .mac, .default]
  have hall : ∀ field, field ∈ fields := by
    intro field
    cases field <;> decide
  obtain ⟨cs, hcs⟩ := exists_objectForm (F := Field.Form spec)
    (l := fields.map fun field ↦ (field.key, field)) fun m _ ↦ m.2.exists_form spec
  exact ⟨cs, fields, by decide, fun field hfield ↦ absurd (hall field) hfield, hcs⟩

/-- All networks can be written as settings. -/
theorem exists_form (networks : Networks) : ∃ text : String, Form networks text.toList := by
  obtain ⟨ns, hns⟩ := exists_objectForm (F := SpecForm) (l := networks.entries) fun m _ ↦
    exists_specForm m.2
  have hnetworks : ∀ m ∈ [("networks", networks)], ∃ cs, NetworksForm m.2 cs := by
    intro m hm
    rw [List.mem_singleton.1 hm]
    exact ⟨ns, networks.entries, .refl _, hns⟩
  obtain ⟨cs, hcs⟩ := exists_objectForm hnetworks
  refine ⟨String.ofList ([] ++ (cs ++ [])), ?_⟩
  rw [String.toList_ofList]
  exact .intro spaces_nil hcs spaces_nil

/-! ### Values of fields -/

/-- The kind of a network is read from each of its words. -/
theorem readsForm_kind : ReadsForm kind KindForm := by
  rintro kind cs ⟨word, hword, h⟩ sp hsp left
  refine reads_variant ?_ h hsp left
  have hall : ∀ word ∈ kindWords kind,
      (NetworkKind.words.find? (·.1 = word)).map (·.2) = some kind := by
    cases kind <;> decide
  exact hall word hword

theorem readsForm_literal : ReadsForm literal (NullableForm StringForm) :=
  readsForm_nullable (readsForm_stringValue _) quoted_stringForm

theorem readsForm_nameservers : ReadsForm nameservers (ListForm StringForm) :=
  readsForm_list (readsForm_stringValue _) quoted_stringForm

/-- Roles are read from their names. -/
theorem readsForm_roles : ReadsForm roles (ListForm RoleForm) := by
  refine readsForm_list (fun role cs h sp hsp left ↦ ?_) fun role cs h ↦ ?_
  · cases role with
    | gateway => exact reads_variant (by decide) h hsp left
    | dns => exact reads_variant (by decide) h hsp left
  · cases role with
    | gateway => exact quoted_stringForm h
    | dns => exact quoted_stringForm h

/-! ### Networks -/

/-- What is known of a network when some of its fields have been read. -/
def readSpec (spec : NetworkSpec) (fields : List Field) : PartialSpec where
  kind := if .kind ∈ fields then some spec.kind else none
  ip := if .ip ∈ fields then some spec.ip else none
  netmask := if .netmask ∈ fields then some spec.netmask else none
  gateway := if .gateway ∈ fields then some spec.gateway else none
  dns := if .dns ∈ fields then some spec.dns else none
  mac := if .mac ∈ fields then some spec.mac else none
  default := if .default ∈ fields then some spec.default else none

/-- The fields that are left out have the values of missing fields. -/
theorem spec_readSpec {fields : List Field}
    (h : ∀ field, field ∉ fields → field.IsOmittable spec) :
    (readSpec spec fields).spec = spec := by
  have hgetD {α : Type} {field : Field} {v d : α} (hv : field ∉ fields → v = d) :
      (if field ∈ fields then some v else none).getD d = v := by
    split
    · rfl
    · exact (hv ‹_›).symm
  have hjoin {α : Type} {field : Field} {v : Option α} (hv : field ∉ fields → v = none) :
      (if field ∈ fields then some v else none).join = v := by
    split
    · rfl
    · exact (hv ‹_›).symm
  show NetworkSpec.mk _ _ _ _ _ _ _ = spec
  simp only [readSpec, hgetD (h .kind), hjoin (h .ip), hjoin (h .netmask), hjoin (h .gateway),
    hgetD (h .dns), hjoin (h .mac), hgetD (h .default)]

/-- A field that has not been read yet is read into its place, and the others stay. -/
theorem readsMember_specMember {fields : List Field} {field : Field} (h : field ∉ fields) :
    ReadsMember specMember (Field.Form spec) (field.key, field) (readSpec spec fields)
      (readSpec spec (fields ++ [field])) := by
  intro before after cs hbefore hafter hvalue left
  cases field with
  | kind =>
    exact (reads_once (if_neg h) hbefore (readsForm_kind hvalue hafter left)).bind
      (reads_pure_of_eq (by simp [readSpec]) left)
  | ip | netmask | gateway | mac =>
    exact (reads_once (if_neg h) hbefore (readsForm_literal hvalue hafter left)).bind
      (reads_pure_of_eq (by simp [readSpec]) left)
  | dns =>
    exact (reads_once (if_neg h) hbefore (readsForm_nameservers hvalue hafter left)).bind
      (reads_pure_of_eq (by simp [readSpec]) left)
  | default =>
    exact (reads_once (if_neg h) hbefore (readsForm_roles hvalue hafter left)).bind
      (reads_pure_of_eq (by simp [readSpec]) left)

/-- A network is read from its fields, in any order, and fields that are missing have their
defaults. -/
theorem readsForm_spec : ReadsForm Settings.spec SpecForm := by
  rintro spec cs ⟨fields, hn, homit, h⟩ sp hsp left
  -- members of objects are listed with their keys, and `readSpec` asks for the fields alone
  let state (done : List (String × Field)) : PartialSpec := readSpec spec (done.map (·.2))
  have hstate (l : List Field) :
      state (l.map fun field ↦ (field.key, field)) = readSpec spec l := by
    show readSpec spec _ = _
    rw [List.map_map]
    exact congrArg _ (List.map_id l)
  have hmember : ReadsMembers specMember (Field.Form spec) state
      (fields.map fun field ↦ (field.key, field)) := by
    intro done m rest hsplit
    obtain ⟨before, after, rfl, rfl, hafter⟩ := List.map_eq_append_iff.1 hsplit
    obtain ⟨field, after, rfl, rfl, rfl⟩ := List.map_eq_cons_iff.1 hafter
    have hfresh : field ∉ before := fun hfield ↦
      (List.nodup_append.1 hn).2.2 field hfield field List.mem_cons_self rfl
    have hnext : state ((before.map fun field ↦ (field.key, field)) ++ [(field.key, field)]) =
        readSpec spec (before ++ [field]) := by
      rw [← hstate, List.map_append]
      rfl
    rw [hstate, hnext]
    exact readsMember_specMember hfresh
  have hread : Reads (record specName specMember {} specFields) (utf8 sp ++ (utf8 cs ++ left))
      (readSpec spec fields) left := hstate fields ▸ reads_record state hmember h hsp left
  exact hread.bind (reads_pure_of_eq (spec_readSpec homit) left)

/-- Networks are read from their entries, in any order. -/
theorem readsForm_networks : ReadsForm Settings.networks NetworksForm := by
  rintro networks cs ⟨entries, hperm, h⟩ sp hsp left
  rw [← NameMap.ofList_of_perm hperm]
  refine reads_object NameMap.ofList (fun done m rest _ ↦ ?_) h hsp left
  intro before after cs hbefore hafter hvalue left
  refine (reads_colon hbefore _).bind ((readsForm_spec hvalue hafter left).bind ?_)
  refine reads_pure_of_eq ?_ left
  rw [NameMap.ofList, NameMap.ofList, List.foldl_append]
  rfl

/-! ### Settings -/

/-- Settings have the networks as their one field. -/
theorem reads_settings (h : ObjectForm NetworksForm [("networks", networks)] cs) (hsp : Spaces sp)
    (left : List UInt8) : Reads settings (utf8 sp ++ (utf8 cs ++ left)) networks left := by
  let state (done : List (String × Networks)) : Option Networks := done.head?.map (·.2)
  refine Reads.bind (reads_record state (fun done m rest hsplit ↦ ?_) h hsp left)
    (reads_pure networks left)
  obtain ⟨rfl, hm⟩ : done = [] ∧ m :: rest = [("networks", networks)] := by
    cases done with
    | nil => exact ⟨rfl, hsplit.symm⟩
    | cons e done =>
      have hlength := congrArg List.length hsplit
      simp at hlength
  obtain rfl := (List.cons.inj hm).1
  intro before after cs hbefore hafter hvalue left
  rw [settingsMember, if_pos rfl]
  exact reads_once rfl hbefore (readsForm_networks hvalue hafter left)

/-- A text that is a form of networks is read as them, whatever it is read from. -/
theorem decode_settings (h : Form networks cs) (source : Source) :
    decode settings source (utf8 cs) = .ok networks := by
  obtain ⟨hbefore, hobject, hafter⟩ := h
  rw [utf8_append, utf8_append]
  exact decode_eq_ok hafter (reads_settings hobject hbefore _) source

/-- A text is a form of one value only. -/
theorem Form.unique {networks' : Networks} (h : Form networks cs) (h' : Form networks' cs) :
    networks = networks' :=
  Except.ok.inj ((decode_settings h .text).symm.trans (decode_settings h' .text))

/-- Networks are read back from everything that they can be written as, given as a text or in a
file. -/
theorem ofText_and_ofFile_of_form {text : String} (h : Form networks text.toList) :
    ofText text = .ok networks ∧
      ∀ (files : FileTree) (path : FilePath), files.readBytes path = .ok (Text.toBytes text) →
        ofFile path files = .ok networks := by
  have hdecode (source : Source) : decode settings source (Text.toBytes text) = .ok networks := by
    rw [Text.toBytes_eq]
    exact decode_settings h source
  constructor
  · rw [ofText, hdecode]
    rfl
  · intro files path hread
    obtain ⟨loc, hopen, hcontents⟩ := bind_eq_ok_iff.1 hread
    rw [ofFile, hopen]
    show (files.contents loc).mapError _ >>= _ = _
    rw [hcontents]
    show ofBytes path _ = _
    rw [ofBytes, hdecode]
    rfl

/-! ### A settings file -/

/-- A network without an address, with a name that needs an escape. -/
def lone : Networks :=
  NameMap.empty.insert "a\"" { dns := ["8"] }

/-- The same network with fields in another order, a null and an empty kind. -/
def loneText : String :=
  "\x7b \"networks\":\x7b\"\\u0061\\\"\": " ++
    "\x7b\"mac\":null,\"dns\": [\"8\"], \"type\":\"\"\x7d\x7d\x7d\n"

/-- One network, written with an escape, in an unusual order and with a field that is null. -/
theorem form_lone : Form lone loneText.toList := by
  have hspace : Spaces [' '] := by simp [Spaces]
  have hend : Spaces ['\n'] := by simp [Spaces]
  have hname : StringForm "a\"" ['"', '\\', 'u', '0', '0', '6', '1', '\\', '"', '"'] := by
    have ha : UnitForm 'a'.toNat ['0', '0', '6', '1'] :=
      .cons ⟨by decide, by decide⟩ (.cons ⟨by decide, by decide⟩
        (.cons ⟨by decide, by decide⟩ (.cons ⟨by decide, by decide⟩ .nil)))
    have hbody : CharsForm "a\"".toList ['\\', 'u', '0', '0', '6', '1', '\\', '"'] :=
      .cons (.unit ha) (.cons (.letter (by decide)) .nil)
    exact .intro hbody
  have hmac : MemberForm (Field.Form { dns := ["8"] }) ("mac", .mac) _ :=
    .intro (stringForm_plain (by decide)) spaces_nil spaces_nil .none
  have hdns : MemberForm (Field.Form { dns := ["8"] }) ("dns", .dns) _ :=
    .intro (stringForm_plain (by decide)) spaces_nil hspace
      (.items (.single spaces_nil (stringForm_plain (by decide)) spaces_nil))
  have htype : MemberForm (Field.Form { dns := ["8"] }) ("type", .kind) _ :=
    .intro (stringForm_plain (by decide)) spaces_nil spaces_nil
      ⟨"", by decide, stringForm_plain (by decide)⟩
  have homit (field : Field) (h : field ∉ [Field.mac, .dns, .kind]) :
      field.IsOmittable { dns := ["8"] } := by
    cases field <;> first | rfl | simp at h
  have hspec : SpecForm { dns := ["8"] } _ :=
    ⟨[.mac, .dns, .kind], by decide, homit, .items (.cons spaces_nil hmac spaces_nil
      (.cons spaces_nil hdns spaces_nil (.single hspace htype spaces_nil)))⟩
  have hnetworks : NetworksForm lone _ :=
    ⟨_, .refl _, .items (.single spaces_nil (.intro hname spaces_nil hspace hspec) spaces_nil)⟩
  have hobject : ObjectForm NetworksForm [("networks", lone)] _ :=
    .items (.single hspace (.intro (stringForm_plain (by decide)) spaces_nil spaces_nil hnetworks)
      spaces_nil)
  exact .intro spaces_nil hobject hend

/-- A tree with the settings in a file. -/
def loneFiles : FileTree where
  entries := [(["s"], .file (Text.toBytes loneText) false)]

theorem readBytes_loneFiles : loneFiles.readBytes ⟨"s"⟩ = .ok (Text.toBytes loneText) := by
  have hpath : FileTree.checkPath ⟨"s"⟩ = .ok ["s"] := by decide +kernel
  have hsize : "s".utf8ByteSize = 1 := by decide +kernel
  simp [loneFiles, FileTree.readBytes, FileTree.openPath, FileTree.locate, FileTree.ofWalk,
    FileTree.walk, FileTree.isIdle, FileTree.isSlashes, FileTree.origin, FilePath.isAbsolute,
    FileTree.nameLimit, FileTree.get?, FileTree.find?, FileTree.contents, bind, Except.bind, pure,
    Except.pure, hpath, hsize]

/-- The network is read back from the text and from a file. -/
theorem ofText_and_ofFile_lone :
    Form lone loneText.toList ∧ ofText loneText = .ok lone ∧
      loneFiles.readBytes ⟨"s"⟩ = .ok (Text.toBytes loneText) ∧
        ofFile ⟨"s"⟩ loneFiles = .ok lone := by
  have hread := ofText_and_ofFile_of_form form_lone
  exact ⟨form_lone, hread.1, readBytes_loneFiles, hread.2 _ _ readBytes_loneFiles⟩

end NetReconcile.Settings
