import NetReconcile.FileTree.Call
import NetReconcile.Json.Decode
import NetReconcile.Network

/-!
# Settings files

The declared networks are given in JSON, as an object whose member `networks` maps names to
networks. Unknown members are passed over; of two networks with one name the later counts.
-/

namespace NetReconcile

/-- The words for the kinds of networks. -/
def NetworkKind.words : List (String × NetworkKind) :=
  [("static", .static), ("manual", .static), ("", .static), ("dynamic", .dynamic), ("vip", .vip)]

/-- The kinds of networks as a message lists them. -/
def NetworkKind.known : List String :=
  ["", "manual", "static", "dynamic", "vip"]

/-- The words for the default roles. -/
def DefaultRole.words : List (String × DefaultRole) :=
  [(gateway.word, gateway), (dns.word, dns)]

/-- The default roles as a message lists them. -/
def DefaultRole.known : List String :=
  DefaultRole.words.map (·.1)

/-- Why there are no settings. -/
inductive SettingsError
  | text (cause : Json.Error)
  | file (path : FilePath) (cause : Json.Error)
  /-- The file cannot be opened. -/
  | opening (path : FilePath) (cause : HostError)
  /-- The file cannot be read. -/
  | reading (path : FilePath) (cause : HostError)

/-- The wording of an error. -/
def SettingsError.message : SettingsError → String
  | text cause => s!"unable to parse settings: {cause.message}"
  | file path cause => s!"unable to parse settings file {Text.quoted path.text}: {cause.message}"
  | opening path cause => s!"unable to open {Text.quoted path.text}: {cause.message}"
  | reading path cause =>
    s!"unable to parse settings file {Text.quoted path.text}: {cause.message}"

namespace Settings

open Json

/-- The fields of a network that have been read. -/
structure PartialSpec where
  kind : Option NetworkKind := none
  ip : Option (Option String) := none
  netmask : Option (Option String) := none
  gateway : Option (Option String) := none
  dns : Option (List String) := none
  mac : Option (Option String) := none
  default : Option (List DefaultRole) := none

/-- The network with the fields that have been read. -/
def PartialSpec.spec (p : PartialSpec) : NetworkSpec where
  kind := p.kind.getD .static
  ip := p.ip.join
  netmask := p.netmask.join
  gateway := p.gateway.join
  dns := p.dns.getD []
  mac := p.mac.join
  default := p.default.getD []

/-- Reads the kind of a network. -/
def kind : Reader NetworkKind :=
  variant NetworkKind.words NetworkKind.known

/-- Reads an optional literal. -/
def literal : Reader (Option String) :=
  nullable (stringValue "a string")

/-- Reads a list of nameservers. -/
def nameservers : Reader (List String) :=
  list (stringValue "a string")

/-- Reads a list of default roles. -/
def roles : Reader (List DefaultRole) :=
  list (variant DefaultRole.words DefaultRole.known)

/-- Reads a member of a network. -/
def specMember (key : String) (p : PartialSpec) : Reader PartialSpec := do
  match key with
  | "type" => return { p with kind := ← once key p.kind kind }
  | "ip" => return { p with ip := ← once key p.ip literal }
  | "netmask" => return { p with netmask := ← once key p.netmask literal }
  | "gateway" => return { p with gateway := ← once key p.gateway literal }
  | "dns" => return { p with dns := ← once key p.dns nameservers }
  | "mac" => return { p with mac := ← once key p.mac literal }
  | "default" => return { p with default := ← once key p.default roles }
  | _ =>
    ignoreMember
    return p

/-- What a network is called in messages. -/
def specName : String :=
  "struct NetworkSpec"

/-- Reads a network that is written as a list of its fields. Those that may be missing from an
object without being null may be missing from the list if everything after them is. -/
def specFields : Reader PartialSpec := do
  let expected := specName ++ " with 7 elements"
  let kind ← element? true kind
  let ip ← required 1 expected literal
  let netmask ← required 2 expected literal
  let gateway ← required 3 expected literal
  let dns ← element? false nameservers
  let mac ← required 5 expected literal
  let default ← element? false roles
  return { kind, ip, netmask, gateway, dns, mac, default }

/-- Reads a network. -/
def spec : Reader NetworkSpec :=
  return (← record specName specMember {} specFields).spec

/-- Reads the networks. -/
def networks : Reader Networks :=
  object (fun name ns ↦ do
    colon
    return ns.insert name (← spec)) ∅

/-- Reads a member of the settings. -/
def settingsMember (key : String) (read : Option Networks) : Reader (Option Networks) := do
  if key = "networks" then once key read networks
  else
    ignoreMember
    return read

/-- Reads settings. -/
def settings : Reader Networks :=
  return (← record "struct Settings" settingsMember none (element? true networks)).getD ∅

/-- Reads settings from a text. -/
def ofText (text : String) : Except SettingsError Networks :=
  (decode settings .text (Text.toBytes text)).mapError .text

/-- Reads settings from the bytes of a file. -/
def ofBytes (path : FilePath) (bytes : List UInt8) : Except SettingsError Networks :=
  (decode settings .stream bytes).mapError (.file path)

/-- Reads settings from a file. -/
def ofFile (path : FilePath) (files : FileTree) : Except SettingsError Networks := do
  let loc ← (files.openPath path).mapError (.opening path)
  let bytes ← (files.contents loc).mapError (.reading path)
  ofBytes path bytes

end Settings

end NetReconcile
