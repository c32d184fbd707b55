import NetReconcile.Yaml.Scalar

/-!
# Tokens

A YAML text is split into tokens. Besides what is written, tokens say where block collections start
and end, which follows from columns, and where keys start.

That something is a key shows only when the colon after it is reached, so the start of a possible
key is remembered together with the number of its token, and the token for the key is put before it
later. A key without a mark of its own does not extend over several lines or more than 1024
characters, unless it stands in a flow collection. A token can be given out once no key can be put
before it any more.

## Main definitions

* `Token`: the tokens.
* `Lexer`: how far a text has been split.
* `Lexer.giveOut`: which tokens can be given out.
-/

namespace NetReconcile.Yaml

/-- A token of a YAML text. -/
inductive Token
  | versionDirective
  | tagDirective (handle : String)
  | documentStart
  | documentEnd
  | textEnd
  | blockSequenceStart
  | blockMappingStart
  | blockEnd
  | flowSequenceStart
  | flowSequenceEnd
  | flowMappingStart
  | flowMappingEnd
  | blockEntry
  | flowEntry
  | key
  | value
  | alias (name : String)
  | anchor (name : String)
  | tag (handle : String)
  | scalar (isPlain : Bool) (text : String)
  /-- The text cannot be split any further. -/
  | unreadable
  deriving DecidableEq, Repr

/-! ### State -/

/-- A column that something is indented to. -/
structure Level where
  /-- The column of what is around it. -/
  outer : Int
  /-- Whether it is that of a block collection, which ends with a token. -/
  isBlock : Bool

/-- A token that a key may have to be put before. -/
structure PossibleKey where
  /-- The number of the token. -/
  index : Nat
  place : Spot
  /-- Whether nothing but a key can stand there. -/
  required : Bool

/-- How far a text has been split. -/
structure Lexer where
  rest : Spots
  tokens : List Token := []
  /-- How many tokens have been given out. -/
  given : Nat := 0
  indent : Int := -1
  levels : List Level := []
  /-- How many flow collections are open. -/
  depth : Nat := 0
  /-- The possible key outside of all flow collections, and one for each open flow collection, the
  innermost first. -/
  keys : List (Option PossibleKey) := [none]
  /-- Whether a key may start here. -/
  keyAllowed : Bool := true
  /-- Where a colon may stand right before a value, after a quoted scalar or a flow collection. -/
  adjacent : Option Nat := none
  /-- The column of the last token that says something about a node. -/
  propertyColumn : Nat := 0
  /-- Whether a brace or a question mark has started a mapping in a flow collection, and no bare
  pair has ended since. -/
  mappingMarked : Bool := false
  /-- Whether a pair that is a mapping of its own is open: one in a flow collection, where no
  mapping had been marked. -/
  barePair : Bool := false

/-- A step of splitting a text, which fails where the text cannot be split. -/
abbrev Lex :=
  StateT Lexer Option

namespace Lexer

/-- Whether a flow collection is open. -/
def inFlow (l : Lexer) : Bool :=
  0 < l.depth

/-- Adds a token. -/
def push (t : Token) (l : Lexer) : Lexer :=
  { l with tokens := l.tokens ++ [t] }

/-- Puts a token before another. -/
def insert (index : Nat) (t : Token) (l : Lexer) : Lexer :=
  { l with tokens := l.tokens.take index ++ [t] ++ l.tokens.drop index }

/-- Passes a number of characters. -/
def pass (n : Nat) (l : Lexer) : Lexer :=
  { l with rest := l.rest.drop n }

/-- Says whether a key may start here. -/
def allowKey (allowed : Bool) (l : Lexer) : Lexer :=
  { l with keyAllowed := allowed }

/-- Ends a bare pair. -/
def endPair (l : Lexer) : Lexer :=
  if l.barePair then ({ l with barePair := false, mappingMarked := false }).push .flowMappingEnd
  else l

/-! ### Indentation -/

/-- Ends the block collections that start right of a column. -/
def unroll (column : Int) (l : Lexer) : Lexer :=
  if l.inFlow then l else go l.levels l
where
  go : List Level → Lexer → Lexer
    | [], l => l
    | level :: levels, l =>
      if column < l.indent then
        let l := { l with indent := level.outer, levels }
        go levels (if level.isBlock then l.push .blockEnd else l)
      else l

/-- Leaves the columns that belong to no block collection. -/
def unrollMargins (l : Lexer) : Lexer :=
  go l.levels l
where
  go : List Level → Lexer → Lexer
    | [], l => l
    | level :: levels, l =>
      if level.isBlock then l else go levels { l with indent := level.outer, levels }

/-- Starts a block collection at a column, if none starts there yet. Its token comes before that
with the given number, if one is given. -/
def roll (column : Nat) (index : Option Nat) (t : Token) (l : Lexer) : Lexer :=
  if l.inFlow then l
  else
    let l : Lexer :=
      match l.levels with
      | level :: levels =>
        if l.indent ≤ column && !level.isBlock then { l with indent := level.outer, levels } else l
      | [] => l
    if l.indent < column then
      let l := { l with indent := column, levels := ⟨l.indent, true⟩ :: l.levels }
      match index with
      | some i => l.insert i t
      | none => l.push t
    else l

/-- Demands that what belongs to an entry of a block collection stands right of the collection. -/
def rollMargin (l : Lexer) : Lexer :=
  match l.levels with
  | level :: _ =>
    if !l.inFlow && level.isBlock then
      { l with indent := l.indent + 1, levels := ⟨l.indent, false⟩ :: l.levels }
    else l
  | [] => l

/-! ### Keys -/

/-- The innermost possible key. -/
def key? (l : Lexer) : Option PossibleKey :=
  l.keys.head?.join

/-- Replaces the innermost possible key. -/
def setKey (k : Option PossibleKey) (l : Lexer) : Lexer :=
  { l with keys := k :: l.keys.tail }

/-- Remembers that a key may start here. -/
def saveKey (l : Lexer) : Lexer :=
  if l.keyAllowed then
    let place := l.rest.head
    let required := !l.inFlow && l.indent = place.column && l.levels.head?.any (·.isBlock)
    l.setKey (some ⟨l.tokens.length, place, required⟩)
  else l

/-- Whether a possible key has turned out to be none. -/
def isStale (l : Lexer) (k : PossibleKey) : Bool :=
  !l.inFlow && (k.place.line < l.rest.head.line || k.place.offset + 1024 < l.rest.head.offset)

/-- Whether a key that is required has turned out to be none. -/
def isBroken (l : Lexer) : Bool :=
  l.keys.any fun k ↦ k.any fun k ↦ l.isStale k && k.required

/-- Forgets possible keys that have turned out to be none. -/
def dropStale (l : Lexer) : Lexer :=
  { l with keys := l.keys.map fun k ↦ Option.filter (!l.isStale ·) k }

/-- Gives out the tokens that no key can be put before any more. Nothing more is given out once a
required key is missing. -/
def giveOut (l : Lexer) : Lexer :=
  if l.given = l.tokens.length || l.isBroken then l
  else
    let l := l.dropStale
    { l with given := (l.keys.filterMap (·.map (·.index))).min?.getD l.tokens.length }

end Lexer

/-- Forgets the innermost possible key, which must not be one that is required. -/
def dropKey : Lex Unit := do
  let l ← get
  if l.key?.any (·.required) then failure
  set (l.setKey none)

/-- Forgets all possible keys, none of which must be required. -/
def dropKeys : Lex Unit := do
  let l ← get
  if l.keys.any fun k ↦ k.any (·.required) then failure
  set { l with keys := l.keys.map fun _ ↦ none }

/-- Forgets possible keys that have turned out to be none. -/
def dropStaleKeys : Lex Unit := do
  let l ← get
  if l.isBroken then failure
  set l.dropStale

/-- Passes characters while they satisfy a condition, and gives them. -/
def takeText (p : Char → Bool) : Lex String :=
  modifyGet fun l ↦
    (String.ofList ((l.rest.takeWhile (p ·.char)).map (·.char)),
      { l with rest := l.rest.dropWhile (p ·.char) })

/-- Passes blanks and a comment after a token. -/
def passRest : Lex Unit := do
  let l ← get
  set { l with rest := ← afterToken? l.rest }

end NetReconcile.Yaml
