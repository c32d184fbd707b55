import NetReconcile.Log.Event

/-!
# Interfaces and their hardware addresses

An inventory lists the interfaces of a host, with the hardware address of each if it is known. Only
physical interfaces are configured. Where two of them report one hardware address, the first in the
inventory keeps it and the other is reported; it can still be named by no network.
-/

namespace NetReconcile

/-- An interface of a host. -/
structure Interface where
  name : String
  mac : Option String
  isPhysical : Bool
  deriving DecidableEq, Repr

/-- Interface names by hardware address. Each address occurs once; the order of entries has no
meaning. -/
abbrev MacTable :=
  List (String × String)

/-- The interface with a hardware address. -/
def MacTable.device? (table : MacTable) (mac : String) : Option String :=
  (table.find? (·.1 = mac)).map (·.2)

/-- The hardware address by which an interface can be found: that of a physical interface. -/
def Interface.physicalMac? (i : Interface) : Option String :=
  if i.isPhysical then i.mac else none

/-- Enters the interfaces of an inventory into a table, and reports those whose address another
interface already has. -/
def detectInto : MacTable → List Interface → MacTable × List Event
  | table, [] => (table, [])
  | table, i :: is =>
    match i.physicalMac? with
    | none => detectInto table is
    | some mac =>
      match table.device? mac with
      | none => detectInto (table ++ [(mac, i.name)]) is
      | some first =>
        let (detected, events) := detectInto table is
        (detected, .sharedMac first i.name mac :: events)

/-- The physical interfaces of an inventory by hardware address. -/
def detect (interfaces : List Interface) : MacTable × List Event :=
  detectInto [] interfaces

end NetReconcile
