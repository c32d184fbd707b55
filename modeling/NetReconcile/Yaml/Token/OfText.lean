import NetReconcile.Yaml.Token.Tag

/-!
# The tokens of a text

A text is split from its start on. Each step passes what lies between tokens, ends the block
collections that do not reach to the column of the next token, and splits off that token.

In a flow collection, a pair of a key and a value where no brace or question mark has started a
mapping is a bare pair: a mapping of its own, which ends at the next comma or closing bracket.

A text that cannot be split to its end has the tokens that were given out up to there, and ends in
the token `unreadable`.

## Main definitions

* `Token.ofText`: the tokens of a text.
-/

namespace NetReconcile.Yaml

/-! ### Between tokens -/

/-- Passes blanks, comments and line breaks. A tab must not stand where the indentation of a line
with contents should be. -/
def gapFrom? (l : Lexer) : Spots → Option (Spots × Bool)
  | [] => some ([], false)
  | s :: ss =>
    if isBlank s.char then
      if s.leads && !l.levels.isEmpty && isTabInIndent s l.indent then
        match afterToken? (s :: ss) with
        | some rest => if isBreakOrEnd rest.char then gapFrom? l ss else none
        | none => none
      else gapFrom? l ss
    else if s.char = '\n' then (gapFrom? l ss).map fun (rest, _) ↦ (rest, true)
    else if s.char = '#' then inComment l ss
    else some (s :: ss, false)
where
  /-- Passes a comment, and goes on after it. -/
  inComment (l : Lexer) : Spots → Option (Spots × Bool)
    | [] => some ([], false)
    | s :: ss =>
      if s.char = '\n' then (gapFrom? l ss).map fun (rest, _) ↦ (rest, true)
      else if s.char = '\x00' then some (s :: ss, false)
      else inComment l ss

/-- Goes to the next token. A key may start on a new line. -/
def skipGap : Lex Unit := do
  let l ← get
  let (rest, broken) ← gapFrom? l l.rest
  set { l with rest, keyAllowed := l.keyAllowed || (broken && !l.inFlow) }

/-- Passes blanks, comments and line breaks after a mark, without tabs. The answer also says whether
there was a line break. -/
def afterMark (inComment : Bool) : Spots → Spots × Bool
  | [] => ([], false)
  | s :: ss =>
    if s.char = '\n' then ((afterMark false ss).1, true)
    else if s.char = '\x00' then (s :: ss, false)
    else if inComment || s.char = '#' then afterMark true ss
    else if s.char = ' ' then afterMark false ss
    else (s :: ss, false)

/-! ### Documents -/

/-- The end of the text. -/
def lexEnd : Lex Unit := do
  dropKeys
  modify fun l ↦ ((l.unroll (-1)).allowKey false).push .textEnd

/-- Ends all block collections at the border of a document. -/
def leaveBlocks : Lex Unit := do
  modify (·.unroll (-1))
  dropKey
  modify (·.allowKey false)

/-- A directive. -/
def lexDirective : Lex Unit := do
  leaveBlocks
  let t ← directive
  modify (·.push t)

/-- A mark of three characters that starts or ends a document. -/
def lexBoundary (t : Token) : Lex Unit := do
  leaveBlocks
  modify fun l ↦ (l.pass 3).push t

/-- The end of a document, which has its line for itself. -/
def lexDocumentEnd : Lex Unit := do
  lexBoundary .documentEnd
  passRest
  if !isBreakOrEnd (← get).rest.char then failure

/-! ### Collections -/

/-- The start of a flow collection, of which no more than 255 can be open. -/
def lexFlowStart (t : Token) : Lex Unit := do
  modify fun l ↦ l.saveKey.rollMargin
  if 255 ≤ (← get).depth then failure
  modify fun l ↦
    ({ l with
        depth := l.depth + 1
        keys := none :: l.keys
        keyAllowed := true
        mappingMarked := l.mappingMarked || t = Token.flowMappingStart }).pass 1
  passRest
  modify (·.push t)

/-- The end of a flow collection. One that is not open leaves the possible keys as they are. -/
def lexFlowEnd (t : Token) : Lex Unit := do
  dropKey
  modify fun l ↦
    let l : Lexer := if l.inFlow then { l with depth := l.depth - 1, keys := l.keys.tail } else l
    ((l.allowKey false).endPair).pass 1
  passRest
  modify fun l ↦ { l with adjacent := if l.inFlow then some l.rest.head.offset else l.adjacent }
  modify (·.push t)

/-- A comma between entries of a flow collection. -/
def lexFlowEntry : Lex Unit := do
  dropKey
  modify fun l ↦ ((l.allowKey true).endPair).pass 1
  passRest
  modify (·.push .flowEntry)

/-- Whether the last token says something about a node, from the start of its line on. -/
def endsInMargin (l : Lexer) : Bool :=
  match (l.tokens.drop l.given).getLast? with
  | some (.anchor _) | some (.tag _) => l.propertyColumn = 0
  | _ => false

/-- The dash before an entry of a block sequence. -/
def lexBlockEntry : Lex Unit := do
  let l ← get
  if l.inFlow || !l.keyAllowed then failure
  if endsInMargin l && l.rest.head.column = 0 && 0 ≤ l.indent then failure
  set ((l.pass 1).roll l.rest.head.column none .blockSequenceStart)
  let passed ← skipRest? true false false (← get).rest
  if passed.tab && passed.rest.char = '-' && isBlankOrEnd passed.rest.char₂ then failure
  modify fun l ↦ { l with rest := passed.rest }
  if (← get).rest.char = '\n' || isFlow (← get).rest.char then modify (·.rollMargin)
  dropKey
  modify fun l ↦ (l.allowKey true).push .blockEntry

/-- The question mark before a key. -/
def lexKey : Lex Unit := do
  let l ← get
  if l.inFlow then set { l with mappingMarked := true }
  else
    if !l.keyAllowed then failure
    set (l.roll l.rest.head.column none .blockMappingStart)
  dropKey
  modify fun l ↦ (l.allowKey (!l.inFlow)).pass 1
  let l ← get
  if l.rest.char ≠ ' ' && l.rest.char ≠ '\n' then failure
  let (rest, broken) := afterMark false l.rest
  if rest.char = '\t' then failure
  set (({ l with rest, keyAllowed := l.keyAllowed || (broken && !l.inFlow) }).push .key)

/-- The colon before a value. A key that was possible before it is one, and in a bare pair stands in
the same line. -/
def lexValue : Lex Unit := do
  let l ← get
  let start := l.rest.head
  let bare := l.inFlow && !l.mappingMarked
  set ({ l with barePair := bare }.pass 1)
  if (← get).rest.char = '\t' then
    let passed ← skipRest? true false false (← get).rest
    if !passed.space && isWord passed.rest.char then failure
    modify fun l ↦ { l with rest := passed.rest }
  match l.key? with
  | some k =>
    if bare && k.place.line < start.line then failure
    modify fun l ↦
      let l := l.insert k.index .key
      let l := if bare then l.insert k.index .flowMappingStart else l
      ((l.roll k.place.column (some k.index) .blockMappingStart).rollMargin.setKey none).allowKey
        false
  | none =>
    if !l.inFlow && !l.keyAllowed then failure
    modify fun l ↦
      let l := if bare then l.push .flowMappingStart else l
      ((l.roll start.column none .blockMappingStart).rollMargin).allowKey (!l.inFlow)
  modify (·.push .value)

/-! ### Nodes -/

/-- A token that says something about the node after it, and can start a key. -/
def lexProperty (property : Lex Token) : Lex Unit := do
  modify fun l ↦ { l.saveKey.allowKey false with propertyColumn := l.rest.head.column }
  let t ← property
  modify (·.push t)

/-- The name of an anchor, after its mark. -/
def anchorName : Lex String := do
  modify (·.pass 1)
  let name ← takeText fun c ↦ !isBlankOrEnd c && !isFlow c && c ≠ '\ufeff'
  if name.isEmpty then failure else return name

/-- A quoted scalar, with what follows it up to the next token. -/
def lexQuoted (single : Bool) : Lex Unit := do
  modify fun l ↦ l.saveKey.allowKey false
  let l ← get
  let (text, rest) ← quoted? single l.inFlow l.indent l.rest
  set { l with rest }
  skipGap
  modify fun l ↦ ({ l with adjacent := some l.rest.head.offset }).push (.scalar false text)

/-- A block scalar. -/
def lexBlock (literal : Bool) : Lex Unit := do
  modify fun l ↦ ((l.saveKey.allowKey true).pass 1).unrollMargins
  let l ← get
  let (text, rest) ← block? literal l.indent l.rest
  set (({ l with rest }).push (.scalar false text))

/-- A plain scalar. A key may start after it if it was followed by a line break. -/
def lexPlain : Lex Unit := do
  modify fun l ↦ (l.saveKey.allowKey false).unrollMargins
  let l ← get
  let (text, rest) ← plain? l.inFlow (l.indent + 1) l.rest
  let ended := Spot.leads rest.head
  set (({ l with rest, keyAllowed := ended }).push (.scalar true text))

/-- Whether a colon stands before a value. -/
def isValueColon (l : Lexer) : Bool :=
  isBlankOrEnd l.rest.char₂ ||
    (l.inFlow && (isFlow l.rest.char₂ || l.adjacent = some l.rest.head.offset))

/-- The token that starts with a character. -/
def lexToken (c : Char) : Lex Unit := do
  let l ← get
  let spaced := isBlankOrEnd l.rest.char₂
  match c with
  | '[' => lexFlowStart .flowSequenceStart
  | '\x7b' => lexFlowStart .flowMappingStart
  | ']' => lexFlowEnd .flowSequenceEnd
  | '\x7d' => lexFlowEnd .flowMappingEnd
  | ',' => lexFlowEntry
  | '*' => lexProperty (return .alias (← anchorName))
  | '&' => lexProperty (return .anchor (← anchorName))
  | '!' => lexProperty lexTag
  | '\'' => lexQuoted true
  | '"' => lexQuoted false
  | '%' | '@' | '\x60' => failure
  | _ =>
    if c = '-' && spaced then lexBlockEntry
    else if c = '?' && spaced then lexKey
    else if c = ':' && isValueColon l then lexValue
    else if c = '|' && !l.inFlow then lexBlock true
    else if c = '>' && !l.inFlow then lexBlock false
    else lexPlain

/-- Splits off the next token, with those that its column implies. -/
def lexNext : Lex Unit := do
  skipGap
  dropStaleKeys
  modify fun l ↦ l.unroll l.rest.head.column
  let l ← get
  let c := l.rest.char
  if c = '\x00' then lexEnd
  else if l.rest.head.column = 0 && c = '%' then lexDirective
  else if l.rest.marks '-' then lexBoundary .documentStart
  else if l.rest.marks '.' then lexDocumentEnd
  else if l.rest.head.column < l.indent then failure
  else lexToken c

/-! ### Texts -/

/-- Splits the rest of a text. Each round passes at least one character or reaches the end. -/
def Lexer.run : Nat → Lexer → List Token
  | 0, l => l.tokens.take l.given ++ [.unreadable]
  | fuel + 1, l =>
    match lexNext l with
    | none => l.tokens.take l.given ++ [.unreadable]
    | some ((), after) =>
      if after.tokens.getLast? = some .textEnd then after.tokens else after.giveOut.run fuel

/-- The tokens of a text. -/
def Token.ofText (text : String) : List Token :=
  let rest := Spot.ofText text
  ({ rest } : Lexer).run (rest.length + 1)

end NetReconcile.Yaml
