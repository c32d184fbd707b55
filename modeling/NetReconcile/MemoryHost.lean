import NetReconcile.Announce.Basic
import NetReconcile.PathMap
import NetReconcile.Setup

/-!
# A host in memory

A host whose whole state is a value: files, links, interfaces, addresses, and a trace of what was
done to it. It can be told to fail at any of its operations, so that every way in which a setup can
end can be looked at.

Files and links are found by what their paths name, not by how they are spelled. Reading a path that
is a link reads the file that the link leads to, in one step; writing a path writes the file at that
very path, so a path can be a link and a file at once.

What changes the host or leaves it is recorded in one list, so that the order of a write and a
command can be told. `MemoryHost.writes`, `MemoryHost.commands` and `MemoryHost.requests` are what
the record says about one kind of effect.

## Main definitions

* `Faults`: the failures that are arranged for.
* `Effect`: what can be done to a host, or asked of it, so that others notice.
* `MemoryHost`: the state, with its instances of `Station` and `Host`.
-/

namespace NetReconcile

/-! ### State -/

/-- The failures that are arranged for, each with its message. -/
structure Faults where
  /-- Every write fails. -/
  writes : Option String := none
  /-- Writes to these paths fail. -/
  writesTo : PathMap String := []
  /-- Reads of these paths fail. -/
  readsOf : PathMap String := []
  /-- Writes to these paths succeed, but are not kept. -/
  discards : List FilePath := []
  /-- Every link fails. -/
  links : Option String := none
  /-- A command fails whose words, with blanks between them, contain the first text. -/
  commands : List (String × String) := []
  inventory : Option String := none
  addresses : Option String := none
  broadcast : Option String := none

/-- Who makes the announcements of a host in memory. -/
inductive Broadcaster
  /-- They are made by running commands on the host. -/
  | announcer
  /-- They are only recorded. -/
  | recorder
  deriving DecidableEq, Repr

/-- What is done to a host, or asked of it, so that others can notice. -/
inductive Effect
  | write (path : FilePath) (contents : String)
  | link (target path : FilePath)
  | run (command : List String)
  /-- The announcements of bindings are asked for. -/
  | broadcast (bindings : List AddressBinding)
  deriving DecidableEq

namespace Effect

/-- The path that is written. -/
def written? : Effect → Option FilePath
  | write path _ => some path
  | _ => none

/-- The command that is run. -/
def command? : Effect → Option (List String)
  | run command => some command
  | _ => none

/-- The bindings whose announcements are asked for. -/
def request? : Effect → Option (List AddressBinding)
  | broadcast bindings => some bindings
  | _ => none

end Effect

/-- A host in memory, with a trace of what was done to it, the earliest first. -/
structure MemoryHost where
  files : PathMap String := []
  links : PathMap FilePath := []
  interfaces : List Interface := []
  addresses : List HostAddress := []
  /-- The addresses that interfaces hold when they are looked up. -/
  resolvable : List (String × IPv4) := []
  /-- Paths that appear after a number of looks, whatever files and links there are. -/
  appearing : PathMap Nat := []
  faults : Faults := {}
  announcer : Announcer := {}
  broadcaster : Broadcaster := .recorder
  /-- Writes, links, commands and requests for announcements, in the order in which they came. -/
  effects : List Effect := []
  lookups : List String := []
  polls : List FilePath := []
  pauses : List Nat := []
  events : List Event := []

namespace MemoryHost

/-! ### The record of effects -/

/-- Adds an effect to the record. -/
def record (e : Effect) (h : MemoryHost) : MemoryHost :=
  { h with effects := h.effects ++ [e] }

/-- The paths that were written. -/
def writes (h : MemoryHost) : List FilePath :=
  h.effects.filterMap Effect.written?

/-- The commands that were run. -/
def commands (h : MemoryHost) : List (List String) :=
  h.effects.filterMap Effect.command?

/-- The lists of bindings whose announcements were asked for. -/
def requests (h : MemoryHost) : List (List AddressBinding) :=
  h.effects.filterMap Effect.request?

/-- The lists of bindings whose announcements were only recorded. -/
def broadcasts (h : MemoryHost) : List (List AddressBinding) :=
  match h.broadcaster with
  | .announcer => []
  | .recorder => h.requests

/-! ### Files and links -/

/-- What is read at a path: the text of the file that it leads to. -/
def textAt? (h : MemoryHost) (path : FilePath) : Option String :=
  h.files.get? ((h.links.get? path).getD path)

/-- The host after a file was written. -/
def stored (path : FilePath) (contents : String) (h : MemoryHost) : MemoryHost :=
  record (.write path contents) { h with
    files := if h.faults.discards.any (·.same path) then h.files else h.files.set path contents }

/-- The host after a path was made a link. -/
def linked (target path : FilePath) (h : MemoryHost) : MemoryHost :=
  record (.link target path) { h with links := h.links.set path target }

/-! ### Operations -/

/-- Fails with the message of a fault that is arranged for. -/
def failIf (fault : Option String) : HostM MemoryHost Unit :=
  match fault with
  | none => pure ()
  | some message => throw (.reported message)

/-- Looks whether a path leads to something, and counts the look. -/
def isPresent (path : FilePath) (h : MemoryHost) : Bool × MemoryHost :=
  let h := { h with polls := h.polls ++ [path] }
  match h.appearing.get? path with
  | some 0 => (true, h)
  | some (misses + 1) => (false, { h with appearing := h.appearing.set path misses })
  | none => (h.files.contains path || h.links.contains path, h)

/-- The address that an interface holds when it is looked up. -/
def addressOf? (h : MemoryHost) (interface : String) : Option IPv4 :=
  (h.resolvable.find? (·.1 = interface)).map (·.2)

/-- Looks up the address of an interface, and records the lookup. -/
def primaryIPv4 (interface : String) : HostM MemoryHost IPv4 := do
  modify fun h ↦ { h with lookups := h.lookups ++ [interface] }
  match (← get).addressOf? interface with
  | some ip => return ip
  | none => throw (.noIPv4 interface)

/-- Whether the first list of characters occurs in the second. -/
def occursIn (pattern : List Char) : List Char → Bool
  | [] => pattern.isEmpty
  | c :: cs => pattern.isPrefixOf (c :: cs) || occursIn pattern cs

/-- The message with which a command fails: that of the first arranged failure that applies. -/
def commandFault? (faults : Faults) (command : List String) : Option String :=
  let words := " ".intercalate command
  (faults.commands.find? fun f ↦ occursIn f.1.toList words.toList).map (·.2)

/-- Records a command. -/
def run (command : List String) : HostM MemoryHost Unit := do
  modify (record (.run command))
  failIf (commandFault? (← get).faults command)

/-- Reads the file that a path leads to. -/
def read (path : FilePath) : HostM MemoryHost (Option String) := do
  let h ← get
  failIf (h.faults.readsOf.get? path)
  return h.textAt? path

/-- Writes the file at a path. A write that fails leaves no trace. -/
def write (path : FilePath) (contents : String) : HostM MemoryHost Unit := do
  let h ← get
  failIf (h.faults.writesTo.get? path)
  failIf h.faults.writes
  set (h.stored path contents)

/-- Makes a path a link. -/
def link (target path : FilePath) : HostM MemoryHost Unit := do
  failIf (← get).faults.links
  modify (linked target path)

instance : FileStore MemoryHost where
  isPresent := isPresent
  read := read
  write := write
  link := link

instance : Station MemoryHost where
  primaryIPv4 := primaryIPv4
  run := run
  pause ms h := { h with pauses := h.pauses ++ [ms] }
  report e h := { h with events := h.events ++ [e] }

/-- Records that announcements are asked for, and makes them unless recording is all. -/
def broadcast (bindings : List AddressBinding) : HostM MemoryHost Unit := do
  modify (record (.broadcast bindings))
  match (← get).broadcaster with
  | .announcer => (← get).announcer.broadcast bindings
  | .recorder => failIf (← get).faults.broadcast

instance : Host MemoryHost where
  interfaces := do
    failIf (← get).faults.inventory
    return (← get).interfaces
  addresses := do
    failIf (← get).faults.addresses
    return (← get).addresses
  broadcast := broadcast

/-! ### Changes from outside -/

/-- Removes what is at a path. -/
def remove (h : MemoryHost) (path : FilePath) : MemoryHost :=
  { h with files := h.files.erase path, links := h.links.erase path }

/-- Arranges for the same host without failures. -/
def heal (h : MemoryHost) : MemoryHost :=
  { h with faults := {} }

/-- A host on which nothing is arranged to fail. -/
def FaultFree (h : MemoryHost) : Prop :=
  h.faults = {}

theorem FaultFree.faults_eq {h : MemoryHost} (hf : h.FaultFree) : h.faults = {} :=
  hf

end MemoryHost

end NetReconcile
