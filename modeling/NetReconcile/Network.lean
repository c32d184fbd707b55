import NetReconcile.NameMap
import NetReconcile.Text.Blank

/-!
# Declared networks

What an operator declares: networks by name, each with a kind, optional literals and the default
roles that it claims. The literals are kept as they were written; they are read only when a
configuration is derived from them, so a literal that nothing needs may be malformed.
-/

namespace NetReconcile

/-- How the interface of a network gets its address. A virtual address is no interface of this
host's own and is never configured here. -/
inductive NetworkKind
  | static
  | dynamic
  | vip
  deriving DecidableEq, Repr, Inhabited

/-- A role that at most one network holds for the whole host. -/
inductive DefaultRole
  | gateway
  | dns
  deriving DecidableEq, Repr

/-- The word for a role in settings and messages. -/
def DefaultRole.word : DefaultRole → String
  | gateway => "gateway"
  | dns => "dns"

/-- One declared network. -/
structure NetworkSpec where
  kind : NetworkKind := .static
  ip : Option String := none
  netmask : Option String := none
  gateway : Option String := none
  dns : List String := []
  mac : Option String := none
  default : List DefaultRole := []
  deriving DecidableEq, Repr

namespace NetworkSpec

/-- Whether the network is a virtual address. -/
def isVip (spec : NetworkSpec) : Bool :=
  spec.kind = .vip

/-- Whether the address of the network is assigned by DHCP. -/
def isDynamic (spec : NetworkSpec) : Bool :=
  spec.kind = .dynamic

/-- Whether the network claims a role. Claiming it twice is claiming it. -/
def claims (spec : NetworkSpec) (role : DefaultRole) : Bool :=
  role ∈ spec.default

/-- The hardware address that the network names, as the inventory spells it: without the blanks at
its ends and in lower case. A blank address names no hardware. -/
def macAddress? (spec : NetworkSpec) : Option String :=
  (spec.mac.map Text.trim).filter (· ≠ "") |>.map Text.lowerAscii

end NetworkSpec

/-- The declared networks, in the order of their names. -/
abbrev Networks :=
  NameMap NetworkSpec

end NetReconcile
