import NetReconcile.FileTree.Store
import NetReconcile.Interface

/-!
# The inventory of a host

The kernel shows the interfaces of a host as entries of a directory. An interface is physical if it
has an entry for the device behind it. The hardware address of a physical interface is read from a
file; blanks at its ends and the case of its letters have no meaning. An address that cannot be read
is reported, and the interface is listed without it.
-/

namespace NetReconcile

namespace Sysfs

/-- A hardware address as an inventory spells it. A blank text is none. -/
def macOfText? (text : String) : Option String :=
  let mac := Text.lowerAscii (Text.trim text)
  if mac = "" then none else some mac

/-- The hardware address of an interface, with a report if it cannot be read. -/
def mac? (t : FileTree) (dir : FilePath) (name : String) : Option String × List Event :=
  match t.readText ((dir.join name).join "address") with
  | .ok text => (macOfText? text, [])
  | .error e => (none, [.macUnreadable name e])

/-- An interface, given its name. -/
def interface (t : FileTree) (dir : FilePath) (name : String) : Interface × List Event :=
  if t.pathExists ((dir.join name).join "device") then
    let (mac, events) := mac? t dir name
    (⟨name, mac, true⟩, events)
  else (⟨name, none, false⟩, [])

/-- The location of the directory of interfaces. -/
def directory (t : FileTree) (dir : FilePath) : Except HostError FileTree.Location :=
  match t.openPath dir with
  | .error e => .error (.during (.openPath dir) e)
  | .ok loc =>
    match t.get? loc with
    | some (.directory _) => .ok loc
    | _ => .error (.during (.listDirectory dir) (.system .notDirectory))

/-- The interfaces that a directory shows, in the order of their names, and what could not be
read. -/
def interfaces (t : FileTree) (dir : FilePath) :
    Except HostError (List Interface × List Event) := do
  let found := (t.names (← directory t dir)).map (interface t dir)
  return (found.map (·.1), found.flatMap (·.2))

end Sysfs

end NetReconcile
