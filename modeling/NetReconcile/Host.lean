import NetReconcile.Backoff
import NetReconcile.Interface

/-!
# What the program needs of a host

The program works on a host through a few operations, and is written against their signatures alone.
A state of type `σ` is all that the operations can see and change. An operation that fails may have
changed the state, and the change stays.

The operations come in three groups: `FileStore` for files, `Station` for what announcing addresses
on the local segment needs beside them, and `Host` for the inventory and the address table that a
configuration is derived from and checked against.
-/

namespace NetReconcile

/-- An operation on hosts with states `σ`. -/
abbrev HostM (σ : Type) :=
  EStateM HostError σ

/-- Names the activity that an operation is part of in its errors. -/
def within {σ α : Type} (activity : Activity) (op : HostM σ α) : HostM σ α :=
  EStateM.adaptExcept (.during activity) op

/-- A host that stores files. -/
class FileStore (σ : Type) where
  /-- Whether a path leads to something. -/
  isPresent : FilePath → σ → Bool × σ
  /-- The contents of a file, or `none` if it does not exist. -/
  read : FilePath → HostM σ (Option String)
  /-- Makes a file hold a text. -/
  write : FilePath → String → HostM σ Unit
  /-- Makes the second path a link to the first. -/
  link : (target link : FilePath) → HostM σ Unit

/-- A host as a station on its local segment. -/
class Station (σ : Type) extends FileStore σ where
  /-- The address that an interface holds at this time. -/
  primaryIPv4 : String → HostM σ IPv4
  /-- Runs a program with its arguments, and fails unless the program succeeds. -/
  run : List String → HostM σ Unit
  /-- Lets some time pass, at most the given number of milliseconds. -/
  pause : Nat → σ → σ
  /-- Reports an event. -/
  report : Event → σ → σ

/-- What an address is to be announced as belonging to, and which address. -/
inductive AddressSource
  | known (ip : IPv4)
  /-- Assigned by DHCP; looked up when it is announced. -/
  | deferred
  deriving DecidableEq, Repr

/-- An interface whose address is to be announced. -/
structure AddressBinding where
  interface : String
  source : AddressSource
  deriving DecidableEq, Repr

/-- A host whose network can be set up. -/
class Host (σ : Type) extends Station σ where
  /-- The interfaces of the host. -/
  interfaces : HostM σ (List Interface)
  /-- The addresses of all interfaces. -/
  addresses : HostM σ (List HostAddress)
  /-- Announces the addresses of interfaces, and fails if one announcement does. -/
  broadcast : List AddressBinding → HostM σ Unit

end NetReconcile
