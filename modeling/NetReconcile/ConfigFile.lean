import NetReconcile.Derivation.Basic
import NetReconcile.FilePath

/-!
# Configuration files

Every derived configuration is written to files that the host's network service and its DHCP client
read: one file per interface, one for the DHCP client if an interface uses DHCP, and the resolver
file if the host has nameservers. Nothing in a file depends on the name of a network or on an
address that DHCP assigned earlier, so renaming a network changes no file.

Device names go into the files as they are.

## Main definitions

* `ConfigPaths`: where the files are.
* `InterfaceConfig.ifcfg`, `dhclientConf`, `resolvConf`: their contents.
* `ConfigPaths.render`: all files of a set of configurations, in the order in which they are
  written.
-/

namespace NetReconcile

/-- Where the configuration files are. -/
structure ConfigPaths where
  ifcfgDir : FilePath := ⟨"/etc/sysconfig/network-scripts"⟩
  dhclientConf : FilePath := ⟨"/etc/dhcp/dhclient.conf"⟩
  dhclientDir : FilePath := ⟨"/etc/dhcp"⟩
  resolvConf : FilePath := ⟨"/etc/resolv.conf"⟩
  deriving DecidableEq, Repr, Inhabited

namespace ConfigPaths

/-- The file of an interface. -/
def ifcfg (paths : ConfigPaths) (device : String) : FilePath :=
  paths.ifcfgDir.join ("ifcfg-" ++ device)

/-- The link by which the DHCP client finds its configuration for an interface. -/
def dhclientLink (paths : ConfigPaths) (device : String) : FilePath :=
  paths.dhclientDir.join ("dhclient-" ++ device ++ ".conf")

end ConfigPaths

/-- A file and what it should hold. -/
structure ConfigFile where
  path : FilePath
  contents : String
  deriving DecidableEq

/-! ### Contents -/

/-- Lines, each with its end. -/
def linesText (lines : List String) : String :=
  String.join (lines.map (· ++ "\n"))

/-- Numbered settings for nameservers, counted from one. -/
def dnsLines (dns : List IpAddress) : List String :=
  dns.mapIdx fun i server ↦ "DNS" ++ toString (i + 1) ++ "=" ++ server.text

/-- The lines of the file of an interface. -/
def InterfaceConfig.ifcfgLines (c : InterfaceConfig) : List String :=
  ("DEVICE=" ++ c.device) ::
    match c.protocol with
    | .static a =>
      ["BOOTPROTO=static", "IPADDR=" ++ a.address.text, "NETMASK=" ++ a.netmask.text,
        "BROADCAST=" ++ a.broadcast.text] ++
      (c.gateway.map fun g ↦ "GATEWAY=" ++ g.text).toList ++
      ["ONBOOT=yes", "PEERDNS=no"] ++ dnsLines c.dns
    | .dhcp _ => ["BOOTPROTO=dhcp", "ONBOOT=yes", "PEERDNS=yes"]

/-- The file of an interface. -/
def InterfaceConfig.ifcfg (c : InterfaceConfig) : String :=
  linesText c.ifcfgLines

/-- What the configuration of the DHCP client starts with. -/
def dhclientHeader : List String :=
  ["# Generated by hostnet",
    "",
    "option rfc3442-classless-static-routes code 121 = array of unsigned integer 8;",
    "",
    "send host-name \"<hostname>\";",
    "",
    "request subnet-mask, broadcast-address, time-offset, routers,",
    "\tdomain-name, domain-name-servers, domain-search, host-name,",
    "\tnetbios-name-servers, netbios-scope, interface-mtu,",
    "\trfc3442-classless-static-routes, ntp-servers;",
    ""]

/-- The configuration of the DHCP client, which asks it to put the host's nameservers before those
that it is given. -/
def dhclientConf (dns : List IpAddress) : String :=
  linesText (dhclientHeader ++
    if dns.isEmpty then []
    else ["prepend domain-name-servers " ++ ", ".intercalate (dns.map (·.text)) ++ ";"])

/-- The resolver file, a line per nameserver. -/
def resolvConf (dns : List IpAddress) : String :=
  linesText (dns.map fun server ↦ "nameserver " ++ server.text)

/-! ### Files -/

namespace ConfigPaths

/-- The files of the interfaces. -/
def interfaceFiles (paths : ConfigPaths) (cs : InterfaceConfigs) : List ConfigFile :=
  cs.configs.map fun c ↦ ⟨paths.ifcfg c.device, c.ifcfg⟩

/-- The file of the DHCP client, if an interface uses it. -/
def dhclientFile? (paths : ConfigPaths) (cs : InterfaceConfigs) : Option ConfigFile :=
  if cs.hasDhcp then some ⟨paths.dhclientConf, NetReconcile.dhclientConf cs.dns⟩ else none

/-- The resolver file, if the host has nameservers. -/
def resolverFile? (paths : ConfigPaths) (cs : InterfaceConfigs) : Option ConfigFile :=
  if cs.dns.isEmpty then none else some ⟨paths.resolvConf, NetReconcile.resolvConf cs.dns⟩

/-- All files of a set of configurations, in the order in which they are written. -/
def render (paths : ConfigPaths) (cs : InterfaceConfigs) : List ConfigFile :=
  paths.interfaceFiles cs ++ (paths.dhclientFile? cs).toList ++ (paths.resolverFile? cs).toList

end ConfigPaths

end NetReconcile
