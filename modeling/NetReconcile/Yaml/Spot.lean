/-!
# A text with its places

YAML gives meaning to columns. Before it is read, each character of a text is put together with its
place: its line, its column, its distance from the start, and whether only blanks stand before it in
its line. A mark at the end stands for the end of the text, so the end has a place as well.

Every line break is a single line feed by then, however it was written, and a null character ends
the text.

## Main definitions

* `Spot`: a character and its place.
* `Spot.ofText`: the places of a text.
* `skipRest?`: passes what may follow a token in its line.
-/

namespace NetReconcile.Yaml

/-! ### Characters -/

/-- Whether a character separates tokens within a line. -/
def isBlank (c : Char) : Bool :=
  c = ' ' || c = '\t'

/-- Whether a character ends a line or the text. -/
def isBreakOrEnd (c : Char) : Bool :=
  c = '\n' || c = '\x00'

/-- Whether a character separates tokens, or ends the text. -/
def isBlankOrEnd (c : Char) : Bool :=
  isBlank c || isBreakOrEnd c

/-- Whether a character has a meaning of its own in a flow collection. -/
def isFlow (c : Char) : Bool :=
  c = ',' || c = '[' || c = ']' || c = '\x7b' || c = '\x7d'

/-- Whether a character belongs to a word. -/
def isWord (c : Char) : Bool :=
  c.isAlphanum || c = '_' || c = '-'

/-! ### Places -/

/-- A character of a text, and its place. -/
structure Spot where
  char : Char
  line : Nat := 0
  column : Nat := 0
  offset : Nat := 0
  /-- Whether only blanks stand before it in its line. -/
  leads : Bool := true
  deriving DecidableEq, Repr

namespace Spot

/-- The place after a character, for the character that stands there. -/
def next (s : Spot) (c : Char) : Spot :=
  if s.char = '\n' then ⟨c, s.line + 1, 0, s.offset + 1, true⟩
  else ⟨c, s.line, s.column + 1, s.offset + 1, s.leads && isBlank s.char⟩

/-- The places of characters, from that of the first on, and of the end of the text. -/
def follow (s : Spot) : List Char → List Spot
  | [] => [s, s.next '\x00']
  | c :: cs => s :: (s.next c).follow cs

/-- Writes every line break as a line feed. -/
def unifyBreaks : List Char → List Char
  | '\r' :: '\n' :: cs => '\n' :: unifyBreaks cs
  | '\r' :: cs => '\n' :: unifyBreaks cs
  | c :: cs => c :: unifyBreaks cs
  | [] => []

/-- The places of a text. -/
def ofText (text : String) : List Spot :=
  match unifyBreaks (text.toList.takeWhile (· ≠ '\x00')) with
  | [] => [⟨'\x00', 0, 0, 0, true⟩]
  | c :: cs => follow ⟨c, 0, 0, 0, true⟩ cs

end Spot

/-- The rest of a text, from some place on. -/
abbrev Spots :=
  List Spot

namespace Spots

/-- The first place. -/
def head (ss : Spots) : Spot :=
  ss.headD ⟨'\x00', 0, 0, 0, true⟩

/-- The first character. -/
def char (ss : Spots) : Char :=
  ss.head.char

/-- The character after the first. -/
def char₂ (ss : Spots) : Char :=
  Spots.char ss.tail

/-- Whether a word here is a character written three times. -/
def isTriple (ss : Spots) (c : Char) : Bool :=
  (ss.take 3).map (·.char) = [c, c, c] && isBlankOrEnd (char (ss.drop 3))

/-- Whether a word here looks like a mark that starts or ends a document. -/
def isBoundaryMark (ss : Spots) : Bool :=
  isTriple ss '-' || isTriple ss '.'

/-- Whether a character written three times stands at the start of a line, as a word. -/
def marks (ss : Spots) (c : Char) : Bool :=
  ss.head.column = 0 && isTriple ss c

/-- Whether a document starts or ends here. -/
def atBoundary (ss : Spots) : Bool :=
  ss.head.column = 0 && isBoundaryMark ss

/-- Passes the rest of the line. -/
def skipLine (ss : Spots) : Spots :=
  ss.dropWhile fun s ↦ !isBreakOrEnd s.char

end Spots

/-! ### Between tokens -/

/-- What was passed after a token. -/
structure Passed where
  space : Bool := false
  tab : Bool := false
  rest : Spots

/-- Passes blanks and a comment after a token. A comment needs a blank before it. Tabs are passed
only where they may be. -/
def skipRest? (tabs : Bool) (space tab : Bool) : Spots → Option Passed
  | [] => some ⟨space, tab, []⟩
  | s :: ss =>
    if s.char = ' ' then skipRest? tabs true tab ss
    else if s.char = '\t' && tabs then skipRest? tabs space true ss
    else if s.char = '#' then
      if space || tab then some ⟨space, tab, Spots.skipLine ss⟩ else none
    else some ⟨space, tab, s :: ss⟩

/-- Passes blanks and a comment after a token. -/
def afterToken? (ss : Spots) : Option Spots :=
  (skipRest? true false false ss).map (·.rest)

end NetReconcile.Yaml
