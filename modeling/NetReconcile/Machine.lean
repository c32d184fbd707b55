import NetReconcile.Announce.Basic
import NetReconcile.Setup
import NetReconcile.Shell.Run
import NetReconcile.Sysfs

/-!
# A machine

A host whose files, inventory and programs are those of a file tree. Its kernel has no addresses, so
an address that DHCP assigned is never found, and an address that was configured never comes to be
held.
-/

namespace NetReconcile

/-- A host that consists of a file tree. -/
structure Machine where
  files : FileTree := {}
  /-- The directories in which programs are looked for first. -/
  searchPath : List FilePath := []
  announcer : Announcer := {}
  /-- What was reported, the earliest first. -/
  events : List Event := []

namespace Machine

/-- An operation on the files of a machine. -/
def onFiles {α : Type} (op : HostM FileTree α) : HostM Machine α := fun m ↦
  match op m.files with
  | .ok a files => .ok a { m with files }
  | .error e files => .error e { m with files }

/-- Reports an event. -/
def report (e : Event) (m : Machine) : Machine :=
  { m with events := m.events ++ [e] }

/-- The addresses of all interfaces. -/
def addressTable : List HostAddress :=
  []

/-- Looks up the address of an interface. -/
def primaryIPv4 (interface : String) : HostM Machine IPv4 :=
  match firstIPv4? addressTable interface with
  | some ip => pure ip
  | none => throw (.noIPv4 interface)

/-- Runs a program with its arguments. -/
def run (command : List String) : HostM Machine Unit := do
  let searchPath := (← get).searchPath
  discard (onFiles (Shell.runCommand searchPath command))

instance : FileStore Machine where
  isPresent p m := (m.files.pathExists p, m)
  read p := onFiles (FileTree.readFile p)
  write p contents := onFiles (FileTree.writeFile p contents)
  link target link := onFiles (FileTree.replaceLink target link)

instance : Station Machine where
  primaryIPv4 := primaryIPv4
  run := run
  pause _ m := m
  report := report

/-- Reads the inventory, and reports what could not be read. -/
def interfaces : HostM Machine (List Interface) := do
  let m ← get
  match Sysfs.interfaces m.files m.announcer.sysClassNet with
  | .ok (found, events) =>
    set (reportAll events m)
    return found
  | .error e => throw e

instance : Host Machine where
  interfaces := interfaces
  addresses := pure addressTable
  broadcast bindings := do
    let announcer := (← get).announcer
    announcer.broadcast bindings

end Machine

end NetReconcile
