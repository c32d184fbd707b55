import NetReconcile.Derivation.Basic
import NetReconcile.Interface

/-!
# Binding networks to interfaces

Every network that is not a virtual address is bound to a physical interface. A network that names a
hardware address is bound to the interface that has it, and skipped if no interface of this host
does. A single network may name none; it gets the interface that is left over, if exactly one is.

Interfaces are claimed in the order of network names, so the first claim that fails is the one that
is reported. What a skipped network says beyond its hardware address is never looked at.
-/

namespace NetReconcile

/-- What the networks that have been looked at came to. -/
structure Claims where
  /-- The networks that are bound by hardware address, in the order of their names. -/
  bound : List Binding := []
  /-- The networks that name no hardware address, in the order of their names. -/
  unnamed : List (String × NetworkSpec) := []

namespace Claims

/-- The network that has claimed an interface. -/
def claimant? (claims : Claims) (device : String) : Option String :=
  (claims.bound.find? (·.device = device)).map (·.network)

end Claims

/-- Looks at one network after the other. Skipped networks are reported up to the point where a
claim fails. -/
def claimAll (table : MacTable) : Claims → List (String × NetworkSpec) →
    EStateM DerivationError (List Event) Claims
  | claims, [] => pure claims
  | claims, (name, spec) :: rest =>
    if spec.isVip then claimAll table claims rest
    else
      match spec.macAddress? with
      | none => claimAll table { claims with unnamed := claims.unnamed ++ [(name, spec)] } rest
      | some mac =>
        match table.device? mac with
        | none => do
          modify (· ++ [.networkSkipped mac name])
          claimAll table claims rest
        | some device =>
          match claims.claimant? device with
          | some first => throw (.interfaceClaimedTwice device first name)
          | none =>
            claimAll table { claims with bound := claims.bound ++ [⟨name, spec, device⟩] } rest

/-- The interfaces that no network has claimed, one for each hardware address. -/
def unclaimed (table : MacTable) (claims : Claims) : List String :=
  (table.map (·.2)).filter fun device ↦ (claims.claimant? device).isNone

/-- Binds the network that names no hardware, if there is one. -/
def bindUnnamed (table : MacTable) (claims : Claims) : Except DerivationError (List Binding) :=
  match claims.unnamed with
  | [] => .ok claims.bound
  | [(name, spec)] =>
    match unclaimed table claims with
    | [device] => .ok (claims.bound ++ [⟨name, spec, device⟩])
    | others => .error (.noInterfaceAvailable name others.length)
  | several => .error (.ambiguousBinding (several.map (·.1)))

/-- Binds networks to interfaces, and reports the networks that are skipped. -/
def resolveBindings (networks : Networks) (table : MacTable) :
    EStateM DerivationError (List Event) (List Binding) := do
  let claims ← claimAll table {} networks.entries
  match bindUnnamed table claims with
  | .ok bindings => return bindings
  | .error e => throw e

end NetReconcile
