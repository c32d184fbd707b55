import NetReconcile.Yaml.Event

/-!
# Nodes

The events of a text make up a tree of nodes: scalars, sequences and mappings. Only the first node
of the first document is read, and nothing after its end. A reference to an anchor is refused.

Before an entry of a collection is read, it is asked whether the collection ends. If that cannot be
told, it does not end, and the entry is what is told next. So a step that fails between two entries
costs no more than what it passed.

## Main definitions

* `Node`: the tree.
* `Node.ofText?`: the first node of a text.
* `Node.isPresentable`: whether a node has a value where no kind of value is asked for.
-/

namespace NetReconcile.Yaml

/-- A node of a YAML document. -/
inductive Node
  | scalar (isPlain : Bool) (text : String)
  | sequence (items : List Node)
  | mapping (entries : List (Node × Node))

/-- Tells the next step, or that it cannot be told. -/
def attempt : Tell (Option Event) :=
  OptionT.mk (some <$> event.run)

/-- The event before an entry of a collection, unless the collection ends. -/
def entry? (stop : Event) : Tell (Option Event) := do
  match ← attempt with
  | some e => return if e = stop then none else some e
  | none => return some (← event)

namespace Node

mutual

/-- Reads the node that an event is, or starts. -/
def ofEvent : Nat → Event → Tell Node
  | _, .scalar isPlain text => return scalar isPlain text
  | fuel + 1, .sequenceStart => sequence <$> items fuel
  | fuel + 1, .mappingStart => mapping <$> entries fuel
  | _, _ => failure

/-- Reads the items of a sequence up to its end. -/
def items : Nat → Tell (List Node)
  | 0 => failure
  | fuel + 1 => do
    match ← entry? .sequenceEnd with
    | none => return []
    | some e =>
      let item ← ofEvent fuel e
      return item :: (← items fuel)

/-- Reads the entries of a mapping up to its end. -/
def entries : Nat → Tell (List (Node × Node))
  | 0 => failure
  | fuel + 1 => do
    match ← entry? .mappingEnd with
    | none => return []
    | some e =>
      let key ← ofEvent fuel e
      let value ← ofEvent fuel (← event)
      return (key, value) :: (← entries fuel)

end

/-- The first node that tokens make up. A token has at most a few events. -/
def ofTokens? (tokens : List Token) : Option Node :=
  let read : Tell Node := do
    Tell.enterDocument
    ofEvent (16 * (tokens.length + 1)) (← event)
  (read.run { tokens }).1

/-- The first node of a text. -/
def ofText? (text : String) : Option Node :=
  ofTokens? (Token.ofText text)

/-! ### Values of any kind -/

/-- What looks like a number that is infinite, or is none. -/
def numberless : List String :=
  [".inf", ".Inf", ".INF", "+.inf", "+.Inf", "+.INF", "-.inf", "-.Inf", "-.INF", ".nan", ".NAN"]

mutual

/-- Whether a node has a value where no kind of value is asked for. A plain scalar is then what it
looks like, and there is no value for a number that is infinite, or is none. -/
def isPresentable : Node → Bool
  | scalar isPlain text => !(isPlain && text ∈ numberless)
  | sequence items => arePresentable items
  | mapping entries => arePairsPresentable entries

/-- Whether all nodes of a list are presentable. -/
def arePresentable : List Node → Bool
  | [] => true
  | node :: nodes => isPresentable node && arePresentable nodes

/-- Whether all keys and values of a list are presentable. -/
def arePairsPresentable : List (Node × Node) → Bool
  | [] => true
  | (key, value) :: pairs =>
    isPresentable key && isPresentable value && arePairsPresentable pairs

end

end Node

end NetReconcile.Yaml
