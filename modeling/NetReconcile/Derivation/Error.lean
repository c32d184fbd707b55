import NetReconcile.Network
import NetReconcile.Text.Quoted

/-!
# Why no configuration can be derived

Each way in which declared networks and detected hardware can fail to give one configuration per
interface. `DerivationError.message` is the only place that words them.
-/

namespace NetReconcile

/-- A literal of a network. -/
inductive Literal
  | ip
  | netmask
  | gateway
  | dnsServer
  deriving DecidableEq, Repr

/-- The name of a literal in messages. -/
def Literal.name : Literal → String
  | ip => "ip"
  | netmask => "netmask"
  | gateway => "gateway"
  | dnsServer => "dns server"

/-- Why no configuration can be derived. -/
inductive DerivationError
  /-- A literal cannot be read. -/
  | invalidLiteral (network : String) (literal : Literal) (value : String)
  /-- A static network lacks a literal that it needs. -/
  | missingLiteral (network : String) (literal : Literal)
  /-- Two networks claim one role; `first` is the smaller of their names. -/
  | conflictingDefault (role : DefaultRole) (first second : String)
  /-- Several networks name no hardware, so the interface left over could be any of theirs. -/
  | ambiguousBinding (networks : List String)
  /-- One network names no hardware, and not exactly one interface is left over for it. -/
  | noInterfaceAvailable (network : String) (candidates : Nat)
  /-- Two networks name the same interface. -/
  | interfaceClaimedTwice (interface first second : String)
  deriving DecidableEq, Repr

/-- The wording of an error. -/
def DerivationError.message : DerivationError → String
  | invalidLiteral network literal value =>
    s!"invalid {literal.name} '{value}' for network '{network}'"
  | missingLiteral network literal =>
    s!"missing {literal.name} for static network '{network}'"
  | conflictingDefault role first second =>
    s!"networks '{first}' and '{second}' both claim default {role.word}"
  | ambiguousBinding networks =>
    "cannot choose an interface for networks without a MAC address: " ++ Text.quotedList networks
  | noInterfaceAvailable network candidates =>
    s!"cannot bind network '{network}' without a MAC address to {candidates} unclaimed interfaces"
  | interfaceClaimedTwice interface first second =>
    s!"interface {interface} is claimed by networks '{first}' and '{second}'"

end NetReconcile
