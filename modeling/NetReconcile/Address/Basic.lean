import NetReconcile.Address.IPv4
import NetReconcile.Address.IPv6

/-!
# IP addresses and the addresses of a host

Nameservers may be of either family; the addresses that networks assign are IPv4. A host's address
table is the list of what its interfaces hold, in the order in which the kernel reports it.

The kernel reports messages, each about one interface given by its index, with several attributes.
The table keeps the attributes that are interface addresses, drops messages about an index without
a name, and lists a pair once, where it first occurs.
-/

namespace NetReconcile

/-- An address of either family. -/
inductive IpAddress
  | v4 (address : IPv4)
  | v6 (address : IPv6)
  deriving DecidableEq

namespace IpAddress

/-- The written form. -/
def chars : IpAddress → List Char
  | v4 a => a.chars
  | v6 a => a.chars

/-- The written form as a text. -/
def text (a : IpAddress) : String :=
  String.ofList a.chars

/-- Reads an address of either family. No text is an address of both. -/
def ofChars? (cs : List Char) : Option IpAddress :=
  ((IPv4.ofChars? cs).map v4).or ((IPv6.ofChars? cs).map v6)

/-- Reads an address from a text that holds nothing else. -/
def ofText? (s : String) : Option IpAddress :=
  ofChars? s.toList

/-- The address, if it is of the IPv4 family. -/
def toIPv4? : IpAddress → Option IPv4
  | v4 a => some a
  | v6 _ => none

end IpAddress

/-- One address on one interface. -/
structure HostAddress where
  interface : String
  ip : IpAddress
  deriving DecidableEq

/-- The first IPv4 address that a table has for an interface. -/
def firstIPv4? (table : List HostAddress) (interface : String) : Option IPv4 :=
  (table.filter (·.interface = interface)).findSome? (·.ip.toIPv4?)

/-! ### Kernel messages -/

/-- An attribute of an address message. Only `address` says what the interface itself holds. -/
inductive AddressAttribute
  | address (ip : IpAddress)
  | localAddress (ip : IpAddress)
  | broadcast (ip : IpAddress)
  | label (text : String)

/-- A message about the addresses of the interface with an index. -/
structure AddressMessage where
  index : Nat
  attributes : List AddressAttribute

/-- The address that an attribute gives to the interface. -/
def AddressAttribute.held? : AddressAttribute → Option IpAddress
  | .address ip => some ip
  | _ => none

/-- The pairs that a message reports, if its index has a name. -/
def AddressMessage.reported (names : Nat → Option String) (m : AddressMessage) :
    List HostAddress :=
  match names m.index with
  | none => []
  | some name => (m.attributes.filterMap (·.held?)).map fun ip ↦ ⟨name, ip⟩

/-- Adds a pair at the end of a table that does not have it. -/
def addAddress (table : List HostAddress) (a : HostAddress) : List HostAddress :=
  if a ∈ table then table else table ++ [a]

/-- The address table that messages report, in order of first occurrence. -/
def collectAddresses (names : Nat → Option String) (messages : List AddressMessage) :
    List HostAddress :=
  messages.foldl (fun table m ↦ (m.reported names).foldl addAddress table) []

/-- An attribute of a link message. -/
inductive LinkAttribute
  | name (text : String)
  | alias (text : String)
  | mtu (size : Nat)

/-- The name that a link message gives, the first if it gives several. -/
def linkName? (attributes : List LinkAttribute) : Option String :=
  attributes.findSome? fun
    | .name text => some text
    | _ => none

end NetReconcile
