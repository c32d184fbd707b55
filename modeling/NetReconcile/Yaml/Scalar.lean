import NetReconcile.Text.Digits
import NetReconcile.Yaml.Spot

/-!
# Scalars

A scalar is written plain, between quotes, or as a block of lines. In the first two forms a line
break between words is folded: it becomes a blank, and further breaks stay. A block keeps its line
breaks, or folds those between lines that do not start with a blank.

A scalar that is part of a block collection has to be indented. For a quoted scalar and a block,
`indent` is the column of the collection around it, which is negative outside of all collections;
for a plain scalar it is the first column in which the scalar can go on.
-/

namespace NetReconcile.Yaml

/-- A number of line breaks. -/
def breaks (n : Nat) : List Char :=
  List.replicate n '\n'

/-! ### Gaps between words -/

/-- What was passed since the last word of a scalar. -/
structure Gap where
  /-- The blanks before the first line break. -/
  blanks : List Char := []
  /-- How many line breaks there were. -/
  lines : Nat := 0
  /-- Whether the line was ended by an escape, which leaves nothing of the break. -/
  escaped : Bool := false
  /-- Whether the current line has a tab in its indentation. -/
  tab : Bool := false
  /-- Whether the current line has a comment after such a tab. -/
  comment : Bool := false

namespace Gap

/-- Whether a line has ended in the gap. -/
def isBroken (g : Gap) : Bool :=
  g.escaped || 0 < g.lines

/-- What a gap means. -/
def text (g : Gap) : List Char :=
  if g.escaped then breaks g.lines
  else
    match g.lines with
    | 0 => g.blanks
    | 1 => [' ']
    | n + 1 => breaks n

/-- A gap after one more blank. Blanks after a line break say nothing. -/
def blank (g : Gap) (c : Char) : Gap :=
  if g.isBroken then g else { g with blanks := g.blanks ++ [c] }

/-- A gap after one more line break. The end of a line with a comment does not count. -/
def line (g : Gap) : Gap :=
  { g with lines := if g.comment then g.lines else g.lines + 1, tab := false, comment := false }

/-- Whether nothing stands between an escape that ended a line and a place. -/
def isFresh (g : Gap) (s : Spot) : Bool :=
  g.escaped && g.lines = 0 && s.column = 0

end Gap

/-- Whether a tab stands where the indentation of a line should be. -/
def isTabInIndent (s : Spot) (indent : Int) : Bool :=
  s.char = '\t' && s.column < indent

/-! ### Plain scalars -/

/-- Whether a character can be part of a plain scalar, given the next one. -/
def isPlain (inFlow : Bool) (c next : Char) : Bool :=
  if c = ':' then !(isBlankOrEnd next || (inFlow && isFlow next)) else !(inFlow && isFlow c)

/-- Whether a line without contents goes on here with a blank: whether nothing but a comment stands
before its end. -/
def isEmptyLine (ss : Spots) : Bool :=
  let next := Spots.char (ss.dropWhile fun s ↦ isBlank s.char)
  isBreakOrEnd next || next = '#'

/-- Reads a plain scalar on from some word of it. `gap` is what was passed since the last character,
and `none` inside a word. The scalar ends before a line that starts with a mark of a document, also
an indented one, and before a comment. A tab may only stand in the indentation of a line without
contents, which then may also hold a comment, and does not count if it does. The answer is the text
and the place after the scalar and the gap that follows it. -/
def plainFrom? (inFlow : Bool) (indent : Int) : List Char → Option Gap → Spots →
    Option (List Char × Spots)
  | text, _, [] => some (text, [])
  | text, gap, s :: ss =>
    let g := gap.getD {}
    if s.char = '\x00' then some (text, s :: ss)
    else if s.char = '\n' then plainFrom? inFlow indent text (some g.line) ss
    else if g.comment then plainFrom? inFlow indent text gap ss
    else if isBlank s.char then
      if g.isBroken && isTabInIndent s indent then
        if isEmptyLine ss then
          plainFrom? inFlow indent text (some { g with tab := true }) ss
        else none
      else plainFrom? inFlow indent text (some (g.blank s.char)) ss
    else if g.tab && s.char = '#' then
      plainFrom? inFlow indent text (some { g with comment := true }) ss
    else if gap.isSome && !text.isEmpty && !inFlow && s.column < indent then some (text, s :: ss)
    else if gap.isSome && (s.leads && Spots.isBoundaryMark (s :: ss) || s.char = '#') then
      some (text, s :: ss)
    else if gap.isSome && inFlow && s.char = '-' && isFlow (Spots.char ss) then none
    else if isPlain inFlow s.char (Spots.char ss) then
      plainFrom? inFlow indent (text ++ g.text ++ [s.char]) none ss
    else some (text, s :: ss)

/-- Reads a plain scalar, which has at least one character. -/
def plain? (inFlow : Bool) (indent : Int) (ss : Spots) : Option (String × Spots) := do
  if inFlow && ss.head.column < indent then none
  let (text, rest) ← plainFrom? inFlow indent [] (some {}) ss
  if text.isEmpty then none
  return (String.ofList text, rest)

/-! ### Quoted scalars -/

/-- The characters that an escape of one letter stands for. -/
def escapes : List (Char × Char) :=
  [('0', '\x00'), ('a', '\x07'), ('b', '\x08'), ('t', '\t'), ('\t', '\t'), ('n', '\n'),
    ('v', '\x0b'), ('f', '\x0c'), ('r', '\r'), ('e', '\x1b'), (' ', ' '), ('"', '"'), ('/', '/'),
    ('\\', '\\'), ('N', '\u0085'), ('_', '\u00a0'), ('L', '\u2028'), ('P', '\u2029')]

/-- How many digits follow the letter of an escape that gives a code point. -/
def codeLength? (c : Char) : Option Nat :=
  if c = 'x' then some 2 else if c = 'u' then some 4 else if c = 'U' then some 8 else none

/-- The character with a code point, unless that is half of a surrogate pair or out of range. -/
def charOf? (n : Nat) : Option Char :=
  if n.isValidChar then some (Char.ofNat n) else none

/-- Reads an escape after its backslash: the character, and how many characters were read. -/
def escape? (ss : Spots) : Option (Char × Nat) :=
  match codeLength? ss.char with
  | some n => do
    let value ← Text.digits? 16 ((ss.tail.take n).map (·.char))
    if (ss.tail.take n).length < n then none
    return (← charOf? value, n + 1)
  | none => (escapes.find? (·.1 = ss.char)).map fun e ↦ (e.2, 1)

/-- Reads a quoted scalar on, up to its closing quote. `gap` is what was passed since the last
character, and `none` inside a word. `skip` counts the characters that are part of an escape. -/
def quotedFrom? (single : Bool) (indent : Int) : Nat → List Char → Option Gap → Spots →
    Option (List Char × Spots)
  | _, _, _, [] => none
  | skip + 1, text, gap, _ :: ss => quotedFrom? single indent skip text gap ss
  | 0, text, gap, s :: ss =>
    let g := gap.getD {}
    if isBlank s.char then
      if g.isBroken && isTabInIndent s indent then none
      else quotedFrom? single indent 0 text (some (g.blank s.char)) ss
    else if s.char = '\n' then quotedFrom? single indent 0 text (some g.line) ss
    else if s.char = '\x00' then none
    else if gap.isSome && !(g.isFresh s && s.char = '"') &&
        (Spots.atBoundary (s :: ss) || s.column < indent) then
      none
    else
      let text := text ++ g.text
      if single && s.char = '\'' then
        if Spots.char ss = '\'' then quotedFrom? single indent 1 (text ++ ['\'']) none ss
        else some (text, ss)
      else if !single && s.char = '"' then some (text, ss)
      else if !single && s.char = '\\' then
        if Spots.char ss = '\n' then quotedFrom? single indent 1 text (some { escaped := true }) ss
        else
          match escape? ss with
          | none => none
          | some (c, n) => quotedFrom? single indent n (text ++ [c]) none ss
      else quotedFrom? single indent 0 (text ++ [s.char]) none ss

/-- Whether a token may stand right after a quoted scalar. -/
def mayFollowQuoted (inFlow : Bool) (start : Spot) (ss : Spots) : Bool :=
  let c := ss.char
  isBreakOrEnd c || (inFlow && (c = ',' || c = '\x7d' || c = ']')) ||
    (c = ':' && (inFlow || start.line = ss.head.line))

/-- Reads a quoted scalar, and passes the blanks after it. -/
def quoted? (single inFlow : Bool) (indent : Int) (ss : Spots) : Option (String × Spots) := do
  let (text, rest) ← quotedFrom? single indent 0 [] (some {}) ss.tail
  let rest ← afterToken? rest
  if mayFollowQuoted inFlow ss.head rest then return (String.ofList text, rest) else none

/-! ### Block scalars -/

/-- What becomes of the line breaks at the end of a block. -/
inductive Chomping
  | strip
  | clip
  | keep
  deriving DecidableEq

/-- How a chomping is written. -/
def Chomping.ofChar? (c : Char) : Option Chomping :=
  if c = '-' then some .strip else if c = '+' then some .keep else none

/-- The digit that gives the indentation of a block. -/
def indentDigit? (c : Char) : Option Nat :=
  if c.isDigit then some (c.toNat - 48) else none

/-- Reads the digit that gives the indentation of a block, if there is one. It is not zero. -/
def indentation? (ss : Spots) : Option (Nat × Spots) :=
  match indentDigit? ss.char with
  | none => some (0, ss)
  | some 0 => none
  | some n => some (n, ss.tail)

/-- Reads what stands after the mark of a block: chomping and indentation, in either order. The
indentation is zero if it is not given. -/
def blockHeader? (ss : Spots) : Option (Chomping × Nat × Spots) :=
  match Chomping.ofChar? ss.char with
  | some chomping => do
    let (n, ss) ← indentation? ss.tail
    return (chomping, n, ss)
  | none => do
    let (n, ss) ← indentation? ss
    match Chomping.ofChar? ss.char with
    | some chomping => return (chomping, n, ss.tail)
    | none => return (.clip, n, ss)

/-- Passes indentation up to a column, and empty lines, which are counted. -/
def skipIndent (indent : Nat) : Nat → Spots → Nat × Spots
  | lines, [] => (lines, [])
  | lines, s :: ss =>
    if s.char = ' ' && s.column < indent then skipIndent indent lines ss
    else if s.char = '\n' then skipIndent indent (lines + 1) ss
    else (lines, s :: ss)

/-- Passes indentation up to the first line that is not empty. The answer is the largest column, how
many empty lines there were, and the rest. -/
def findIndent : Nat → Nat → Spots → Nat × Nat × Spots
  | column, lines, [] => (column, lines, [])
  | column, lines, s :: ss =>
    let column := max column s.column
    if s.char = ' ' then findIndent column lines ss
    else if s.char = '\n' then findIndent column (lines + 1) ss
    else (column, lines, s :: ss)

/-- The lines of a block that have been read. -/
structure Block where
  text : List Char := []
  /-- Whether the last line has been ended, by a break that is not part of the text yet. -/
  ended : Bool := false
  /-- How many empty lines came after it. -/
  empty : Nat := 0
  /-- Whether the last line started with a blank. -/
  indented : Bool := false
  rest : Spots

/-- What stands between two lines of a block. -/
def Block.joint (b : Block) (literal indented : Bool) : List Char :=
  if !literal && b.ended && !b.indented && !indented then
    if b.empty = 0 then [' '] else breaks b.empty
  else (if b.ended then ['\n'] else []) ++ breaks b.empty

/-- Reads the lines of a block. Each round passes at least one character. -/
def blockLines (literal : Bool) (indent : Nat) : Nat → Block → Block
  | 0, b => b
  | fuel + 1, b =>
    let s := b.rest.head
    if s.column ≠ indent || s.char = '\x00' || (indent = 0 && b.rest.marks '.') then b
    else
      let indented := isBlank s.char
      let line := b.rest.takeWhile fun s ↦ !isBreakOrEnd s.char
      let rest := b.rest.skipLine
      let text := b.text ++ b.joint literal indented ++ line.map (·.char)
      if rest.char = '\x00' then { text, indented, rest }
      else
        let (empty, rest) := skipIndent indent 0 rest.tail
        blockLines literal indent fuel { text, ended := true, empty, indented, rest }

/-- The text of a block. -/
def Block.chomp (b : Block) (chomping : Chomping) (indent : Nat) : List Char :=
  let atEnd := b.rest.char = '\x00' && max indent 1 ≤ b.rest.head.column
  let last := (if b.ended then ['\n'] else []) ++ (if atEnd then ['\n'] else [])
  match chomping with
  | .strip => b.text
  | .clip => b.text ++ last
  | .keep => b.text ++ last ++ breaks b.empty

/-- The text of a block without lines. `lines` is how many line breaks there are in it. -/
def emptyBlock (chomping : Chomping) (broken : Bool) (lines : Nat) : List Char :=
  match chomping with
  | .strip => []
  | .clip => breaks (if broken then 1 else 0)
  | .keep => breaks (if broken then max lines 1 else 0)

/-- Reads a block scalar after its mark. -/
def block? (literal : Bool) (indent : Int) (ss : Spots) : Option (String × Spots) := do
  let (chomping, given, ss) ← blockHeader? ss
  let ss ← afterToken? ss
  if !isBreakOrEnd ss.char then none
  let broken := ss.char = '\n'
  let ss : Spots := if broken then ss.tail else ss
  if ss.char = '\t' then none
  let (column, empty, rest) : Nat × Nat × Spots :=
    if given = 0 then
      let (found, empty, rest) := findIndent 0 0 ss
      (max found (max (indent + 1) (if 0 < indent then 1 else 0)).toNat, empty, rest)
    else
      let column := (if 0 ≤ indent then indent else 0).toNat + given
      let (empty, rest) := skipIndent column 0 ss
      (column, empty, rest)
  if rest.char = '\x00' then
    return (String.ofList (emptyBlock chomping broken empty), rest)
  if rest.head.column < column && indent < rest.head.column then none
  let b := blockLines literal column (rest.length + 1) { empty, rest }
  return (String.ofList (b.chomp chomping column), b.rest)

end NetReconcile.Yaml
