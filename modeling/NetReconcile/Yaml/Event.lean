import NetReconcile.Yaml.Token.OfText

/-!
# Events

What the tokens of a text mean is told step by step: a scalar, a reference to an anchor, or the
start or the end of a collection. Where a node is left out, a plain scalar that is a tilde stands
for it; where only its tag or its anchor is given, an empty one.

Where in its collection the telling is, and where it goes on after it, is a place and a stack of
places. A step that fails leaves both, and the tokens, where it was when it failed, and the next
step goes on from there.

## Main definitions

* `Event`: what is told in a step.
* `Teller`: how far the tokens have been told.
* `event`: tells the next step.
-/

namespace NetReconcile.Yaml

/-- What is told in a step. -/
inductive Event
  | scalar (isPlain : Bool) (text : String)
  | alias
  | sequenceStart
  | sequenceEnd
  | mappingStart
  | mappingEnd
  deriving DecidableEq, Repr

/-- Where in a text the telling is. The first entry of a collection comes after a token that starts
the collection. -/
inductive Place
  /-- Before the node of a document. It may be left out after a mark that starts the document. -/
  | root (marked : Bool)
  | documentEnd
  | blockItem (first : Bool)
  /-- Before an item of a block sequence in the column of the mapping around it. -/
  | dashedItem
  | blockKey (first : Bool)
  | blockValue
  | flowItem (first : Bool)
  | flowKey (first : Bool)
  | flowValue
  /-- After a key of a flow mapping that stands without a value. -/
  | noValue
  /-- In a mapping of one entry that is an item of a flow sequence. -/
  | pairKey
  | pairValue
  | pairEnd
  deriving DecidableEq, Repr

/-- How far the tokens of a text have been told. -/
structure Teller where
  tokens : List Token
  place : Place := .root false
  /-- Where it goes on after the collections that are open, and after keys and values that are being
  told. -/
  outer : List Place := []
  anchors : List String := []
  /-- The handle that the last directive declares. -/
  handle : Option String := none

/-- A step that can fail. What it changed before stays changed. -/
abbrev Tell :=
  OptionT (StateM Teller)

/-- The node that stands for one that is left out. -/
def Event.missing : Event :=
  .scalar true "~"

namespace Tell

/-- The next token. -/
def peek : Tell Token := do
  match (← get).tokens with
  | [] | .unreadable :: _ => failure
  | t :: _ => return t

/-- Passes a token. -/
def skip : Tell Unit :=
  modify fun r ↦ { r with tokens := r.tokens.tail }

/-- Goes to a place. -/
def goTo (p : Place) : Tell Unit :=
  modify fun r ↦ { r with place := p }

/-- Remembers where to go on after the next node. -/
def push (p : Place) : Tell Unit :=
  modify fun r ↦ { r with outer := p :: r.outer }

/-- Goes on where it was to go on. -/
def pop : Tell Unit :=
  modify fun r ↦ { r with place := r.outer.headD .documentEnd, outer := r.outer.tail }

/-! ### Nodes -/

/-- Remembers an anchor. -/
def declare (name : String) : Tell Unit :=
  modify fun r ↦ { r with anchors := name :: r.anchors }

/-- Demands that the handle of a tag is known. One with a name has to be declared. -/
def checkHandle (handle : String) : Tell Unit := do
  if isNamedHandle handle && handle ≠ "!!" && (← get).handle ≠ some handle then failure

/-- Passes the tag and the anchor of a node, at most one of each. The answer is whether there was
one. -/
def properties : Tell Bool := do
  match ← peek with
  | .anchor name =>
    skip
    declare name
    match ← peek with
    | .tag handle => do skip; checkHandle handle
    | _ => pure ()
    return true
  | .tag handle =>
    skip
    checkHandle handle
    match ← peek with
    | .anchor name => do skip; declare name
    | _ => pure ()
    return true
  | _ => return false

/-- A reference to an anchor, which has to be known. -/
def reference (name : String) : Tell Event := do
  pop
  skip
  if name ∈ (← get).anchors then return .alias else failure

/-- Starts a collection, whose first entry comes next. -/
def start (e : Event) (first : Place) : Tell Event := do
  goTo first
  return e

/-- Tells a scalar, after which it goes on outside of it. -/
def leaf (e : Event) : Tell Event := do
  pop
  return e

/-- A node, or the start of one. `block` says whether it may be a block collection, and `sameColumn`
whether the entries of a block sequence may stand in the column of the mapping around it. -/
def node (block sameColumn : Bool) : Tell Event := do
  match ← peek with
  | .alias name => reference name
  | _ =>
    let described ← properties
    match ← peek, block, sameColumn with
    | .blockEntry, _, true => start .sequenceStart .dashedItem
    | .scalar isPlain text, _, _ => do skip; leaf (.scalar isPlain text)
    | .flowSequenceStart, _, _ => start .sequenceStart (.flowItem true)
    | .flowMappingStart, _, _ => start .mappingStart (.flowKey true)
    | .blockSequenceStart, true, _ => start .sequenceStart (.blockItem true)
    | .blockMappingStart, true, _ => start .mappingStart (.blockKey true)
    | _, _, _ => if described then leaf (.scalar true "") else failure

/-- A node, after which it goes on at a place. -/
def nodeThen (next : Place) (block sameColumn : Bool) : Tell Event := do
  push next
  node block sameColumn

/-- A node that is left out. -/
def missing (next : Place) : Tell Event :=
  start .missing next

/-- The end of a collection, with its token. -/
def finish (e : Event) : Tell Event := do
  pop
  skip
  return e

/-! ### Block collections -/

/-- Whether a token is the next entry of a block mapping, or its end. -/
def isBlockStop (t : Token) : Bool :=
  t = .key || t = .value || t = .blockEnd

/-- An item of a block sequence. -/
def blockItem : Tell Event := do
  match ← peek with
  | .blockEnd => finish .sequenceEnd
  | .blockEntry =>
    skip
    let t ← peek
    if t = .blockEntry || t = .blockEnd then missing (.blockItem false)
    else nodeThen (.blockItem false) true false
  | _ => failure

/-- An item of a block sequence in the column of the mapping around it. Anything else than a dash
ends the sequence. -/
def dashedItem : Tell Event := do
  match ← peek with
  | .blockEntry =>
    skip
    let t ← peek
    if t = .blockEntry || isBlockStop t then missing .dashedItem
    else nodeThen .dashedItem true false
  | _ => leaf .sequenceEnd

/-- A key of a block mapping. -/
def blockKey : Tell Event := do
  match ← peek with
  | .key =>
    skip
    if isBlockStop (← peek) then missing .blockValue else nodeThen .blockValue true true
  | .value => missing .blockValue
  | .blockEnd => finish .mappingEnd
  | _ => failure

/-- A value of a block mapping. -/
def blockValue : Tell Event := do
  match ← peek with
  | .value =>
    skip
    if isBlockStop (← peek) then missing (.blockKey false) else nodeThen (.blockKey false) true true
  | _ => missing (.blockKey false)

/-! ### Flow collections -/

/-- Whether a token ends an entry of a flow sequence. -/
def isItemStop (t : Token) : Bool :=
  t = .flowEntry || t = .flowSequenceEnd

/-- Whether a token ends an entry of a flow mapping. -/
def isEntryStop (t : Token) : Bool :=
  t = .flowEntry || t = .flowMappingEnd

/-- Passes the comma before an entry of a flow collection, unless it is the first. -/
def comma (first : Bool) : Tell Unit := do
  if !first then
    match ← peek with
    | .flowEntry => skip
    | _ => failure

/-- An item of a flow sequence, or the start of a mapping of one entry. -/
def flowItem (first : Bool) : Tell Event := do
  match ← peek with
  | .flowSequenceEnd => finish .sequenceEnd
  | _ =>
    comma first
    match ← peek with
    | .flowSequenceEnd => finish .sequenceEnd
    | .key => do skip; start .mappingStart .pairKey
    | _ => nodeThen (.flowItem false) false false

/-- The key of a mapping of one entry. If it is left out, so is what ends it. -/
def pairKey : Tell Event := do
  let t ← peek
  if t = .value || isItemStop t then
    skip
    missing .pairValue
  else nodeThen .pairValue false false

/-- The value of a mapping of one entry. -/
def pairValue : Tell Event := do
  match ← peek with
  | .value =>
    skip
    goTo .pairValue
    if isItemStop (← peek) then missing .pairEnd else nodeThen .pairEnd false false
  | _ => missing .pairEnd

/-- A key of a flow mapping. -/
def flowKey (first : Bool) : Tell Event := do
  match ← peek with
  | .flowMappingEnd => finish .mappingEnd
  | _ =>
    comma first
    match ← peek with
    | .key =>
      skip
      let t ← peek
      if t = .value || isEntryStop t then missing .flowValue else nodeThen .flowValue false false
    | .value => missing .flowValue
    | .flowMappingEnd => finish .mappingEnd
    | _ => nodeThen .noValue false false

/-- A value of a flow mapping. -/
def flowValue : Tell Event := do
  match ← peek with
  | .value =>
    skip
    if isEntryStop (← peek) then missing (.flowKey false) else nodeThen (.flowKey false) false false
  | _ => missing (.flowKey false)

/-! ### Documents -/

/-- Passes directives before a document, of which only the last counts. There is at most one for the
version. `fuel` bounds their number. -/
def directives (versioned : Bool) : Nat → Tell Unit
  | 0 => failure
  | fuel + 1 => do
    match ← peek with
    | .versionDirective =>
      if versioned then failure
      modify fun r ↦ { r with handle := none }
      skip
      directives true fuel
    | .tagDirective handle =>
      modify fun r ↦ { r with handle := some handle }
      skip
      directives versioned fuel
    | _ => pure ()

/-- Whether a token is a directive, or a mark that starts a document. -/
def isDocumentStart : Token → Bool
  | .versionDirective | .tagDirective _ | .documentStart => true
  | _ => false

/-- Passes what stands before the node of the first document. A mark that starts it is needed only
after directives. -/
def enterDocument : Tell Unit := do
  modify fun r ↦ { r with tokens := r.tokens.dropWhile (· = .documentEnd) }
  let t ← peek
  if t = .textEnd then failure
  push .documentEnd
  if isDocumentStart t then
    directives false ((← get).tokens.length + 1)
    if (← peek) ≠ .documentStart then failure
    skip
    goTo (.root true)
  else goTo (.root false)

/-- The node of a document, which is missing if the document ends after its mark. -/
def root (marked : Bool) : Tell Event := do
  let t ← peek
  if marked && (isDocumentStart t || t = .documentEnd || t = .textEnd) then leaf .missing
  else node true false

/-- Passes the token that starts a collection. -/
def enter (first : Bool) : Tell Unit := do
  if first then
    discard peek
    skip

end Tell

open Tell in
/-- Tells the next step. -/
def event : Tell Event := do
  match (← get).place with
  | .root marked => root marked
  | .documentEnd => failure
  | .blockItem first => do enter first; blockItem
  | .dashedItem => dashedItem
  | .blockKey first => do enter first; blockKey
  | .blockValue => blockValue
  | .flowItem first => do enter first; flowItem first
  | .flowKey first => do enter first; flowKey first
  | .flowValue => flowValue
  | .noValue => do discard peek; missing (.flowKey false)
  | .pairKey => pairKey
  | .pairValue => pairValue
  | .pairEnd => start .mappingEnd (.flowItem false)

end NetReconcile.Yaml
