import NetReconcile.ConfigFile
import NetReconcile.Host

/-!
# Writing configuration files

A file is written only if it does not hold its contents yet, so a configuration that is in place is
left alone, and whether anything was written tells whether the network service has to be restarted.
The files are written in the order in which they are rendered. The links by which the DHCP client
finds its configuration are made right after that configuration. The first failure ends the writing;
what was written before it stays.
-/

namespace NetReconcile

/-- Makes a file hold a text. The answer is whether it had to be written. -/
def converge {σ : Type} [FileStore σ] (path : FilePath) (contents : String) : HostM σ Bool := do
  let current ← within (.readFile path) (FileStore.read path)
  if current = some contents then return false
  FileStore.write path contents
  return true

section

variable {σ : Type} [Station σ]

namespace ConfigFile

/-- Makes a configuration file hold its contents, and reports it if it had to be written. -/
def converge (file : ConfigFile) : HostM σ Bool := do
  let changed ← within (.writeFile file.path) (NetReconcile.converge file.path file.contents)
  if changed then modify (Station.report (.fileUpdated file.path))
  return changed

/-- Makes configuration files hold their contents, in order. The answer is whether one of them had
to be written. -/
def convergeAll : List ConfigFile → HostM σ Bool
  | [] => pure false
  | file :: files => do
    let changed ← file.converge
    let rest ← convergeAll files
    return changed || rest

end ConfigFile

namespace ConfigPaths

/-- Links the configuration of the DHCP client to where it is looked for on behalf of interfaces. -/
def linkAll (paths : ConfigPaths) : List InterfaceConfig → HostM σ Unit
  | [] => pure ()
  | c :: cs => do
    let link := paths.dhclientLink c.device
    within (.linkPaths link paths.dhclientConf) (FileStore.link paths.dhclientConf link)
    paths.linkAll cs

/-- Writes the configuration of the DHCP client and makes the links to it, if an interface uses
DHCP. -/
def writeDhclient (paths : ConfigPaths) (cs : InterfaceConfigs) : HostM σ Bool :=
  match paths.dhclientFile? cs with
  | none => pure false
  | some file => do
    let changed ← file.converge
    paths.linkAll cs.dhcps
    return changed

/-- Writes all files of a set of configurations. The answer is whether one of them had to be
written. -/
def write (paths : ConfigPaths) (cs : InterfaceConfigs) : HostM σ Bool := do
  let interfaces ← ConfigFile.convergeAll (paths.interfaceFiles cs)
  let dhclient ← paths.writeDhclient cs
  let resolver ← ConfigFile.convergeAll (paths.resolverFile? cs).toList
  return interfaces || dhclient || resolver

end ConfigPaths

end

end NetReconcile
