import NetReconcile.Derivation.Error
import NetReconcile.HostError

/-!
# Why the network of a host could not be set up

Setting up a network goes through stages, and an error says in which of them it arose: detecting the
hardware, deriving configurations, writing them, checking what came of them, or announcing the
addresses.
-/

namespace NetReconcile

/-- What is checked after the configuration was written. -/
inductive ValidationTarget
  | staticNetwork
  | dns
  deriving DecidableEq, Repr

/-- The name of a check in messages. -/
def ValidationTarget.name : ValidationTarget → String
  | staticNetwork => "static network"
  | dns => "dns"

/-- Why the network of a host could not be set up. -/
inductive NetworkError
  | discovery (cause : HostError)
  | derivation (cause : DerivationError)
  | persistence (cause : HostError)
  | validation (target : ValidationTarget) (cause : HostError)
  | broadcast (cause : HostError)
  deriving DecidableEq

/-- The wording of an error. -/
def NetworkError.message : NetworkError → String
  | discovery cause => "Detecting physical interfaces: " ++ cause.message
  | derivation cause => "Creating interface configurations: " ++ cause.message
  | persistence cause => "Writing network configuration: " ++ cause.message
  | validation target cause => s!"Validating {target.name} configuration: {cause.message}"
  | broadcast cause => "Broadcasting interface addresses: " ++ cause.message

end NetReconcile
