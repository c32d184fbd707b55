/-!
# Patterns

A pattern is a text in which some characters stand for others: a question mark for any one, a star
for any number of them, and a list in brackets for one of the list. A character that is quoted
stands for itself.

## Main definitions

* `Glyph`: a character that may be quoted.
* `Pattern.ofGlyphs`: the pattern that glyphs make up.
* `Pattern.covers`: whether a text fits a pattern.
* `Pattern.dropStart`, `Pattern.dropEnd`: a text without a part that fits.
-/

namespace NetReconcile.Shell

/-- A character that may be quoted. -/
structure Glyph where
  char : Char
  isQuoted : Bool
  deriving DecidableEq, Repr

/-- The characters of glyphs. -/
def charsOf (gs : List Glyph) : List Char :=
  gs.map (·.char)

/-- Whether a glyph is a character that is not quoted. -/
def Glyph.is (g : Glyph) (c : Char) : Bool :=
  g.char = c && !g.isQuoted

/-- A part of a pattern. -/
inductive PatternItem
  | char (c : Char)
  | any
  | many
  /-- A character of one of the ranges, or of none of them. -/
  | oneOf (isNegated : Bool) (ranges : List (Char × Char))
  deriving DecidableEq, Repr

/-- What a text has to look like. -/
abbrev Pattern :=
  List PatternItem

namespace Pattern

/-! ### Reading -/

/-- The named classes of characters, by their ranges. -/
def classes : List (String × List (Char × Char)) :=
  [("alnum", [('0', '9'), ('A', 'Z'), ('a', 'z')]), ("alpha", [('A', 'Z'), ('a', 'z')]),
    ("blank", [(' ', ' '), ('\t', '\t')]), ("cntrl", [('\x00', '\x1f'), ('\x7f', '\x7f')]),
    ("digit", [('0', '9')]), ("graph", [('!', '~')]), ("lower", [('a', 'z')]),
    ("print", [(' ', '~')]), ("punct", [('!', '/'), (':', '@'), ('[', '\x60'), ('\x7b', '~')]),
    ("space", [(' ', ' '), ('\t', '\r')]), ("upper", [('A', 'Z')]),
    ("xdigit", [('0', '9'), ('A', 'F'), ('a', 'f')])]

/-- The named class at the start of a list in brackets, and what comes after it. -/
def readClass? (gs : List Glyph) : Option (List (Char × Char) × List Glyph) :=
  classes.findSome? fun (name, ranges) ↦
    let spelled := ("[:" ++ name ++ ":]").toList
    if charsOf (gs.take spelled.length) = spelled && (gs.take spelled.length).all (!·.isQuoted) then
      some (ranges, gs.drop spelled.length)
    else none

/-- Reads the ranges of a list in brackets up to its end. `none` if it has no end. A bracket that
comes first does not end it. -/
def readRanges (isFirst : Bool) : Nat → List Glyph → Option (List (Char × Char) × List Glyph)
  | 0, _ | _, [] => none
  | fuel + 1, g :: gs =>
    if g.is ']' && !isFirst then some ([], gs)
    else
      match readClass? (g :: gs), gs with
      | some (ranges, rest), _ =>
        (readRanges false fuel rest).map fun (more, rest) ↦ (ranges ++ more, rest)
      | none, dash :: high :: rest =>
        if dash.is '-' && !high.is ']' then
          (readRanges false fuel rest).map fun (more, rest) ↦ ((g.char, high.char) :: more, rest)
        else (readRanges false fuel gs).map fun (more, rest) ↦ ((g.char, g.char) :: more, rest)
      | none, _ =>
        (readRanges false fuel gs).map fun (more, rest) ↦ ((g.char, g.char) :: more, rest)

/-- Reads a list in brackets after its opening bracket. -/
def readList? (gs : List Glyph) : Option (PatternItem × List Glyph) :=
  let isNegated := gs.head?.any fun g ↦ g.is '!' || g.is '^'
  let inner := if isNegated then gs.tail else gs
  (readRanges true (inner.length + 1) inner).map fun (ranges, rest) ↦
    (.oneOf isNegated ranges, rest)

/-- Reads a pattern. Each round passes at least one glyph. -/
def readItems : Nat → List Glyph → Pattern
  | 0, _ | _, [] => []
  | fuel + 1, g :: gs =>
    if g.is '*' then .many :: readItems fuel gs
    else if g.is '?' then .any :: readItems fuel gs
    else
      match if g.is '[' then readList? gs else none with
      | some (item, rest) => item :: readItems fuel rest
      | none => .char g.char :: readItems fuel gs

/-- The pattern that glyphs make up. -/
def ofGlyphs (gs : List Glyph) : Pattern :=
  readItems (gs.length + 1) gs

/-- Whether a pattern is one of other texts than one. -/
def isProper (p : Pattern) : Bool :=
  p.any fun
    | .char _ => false
    | _ => true

/-! ### Fitting -/

/-- Whether a part of a pattern stands for a character. -/
def accepts (c : Char) : PatternItem → Bool
  | .char d => c = d
  | .any => true
  | .many => false
  | .oneOf isNegated ranges => (ranges.any fun (low, high) ↦ low ≤ c && c ≤ high) != isNegated

/-- The ends of a text, the longest first. -/
def ends : List Char → List (List Char)
  | [] => [[]]
  | c :: cs => (c :: cs) :: ends cs

/-- Whether a text fits a pattern. -/
def covers : Pattern → List Char → Bool
  | [], cs => cs.isEmpty
  | .many :: ps, cs => (ends cs).any (covers ps)
  | _ :: _, [] => false
  | p :: ps, c :: cs => accepts c p && covers ps cs

/-- A star covers any start of a text, and the rest of the pattern has to fit what is left. -/
theorem covers_many (ps : Pattern) (cs : List Char) :
    covers (.many :: ps) cs = (ends cs).any (covers ps) := by
  cases cs <;> rfl

/-- The lengths that a part of a text can have, in the order in which they are tried. -/
def lengths (isLongest : Bool) (cs : List Char) : List Nat :=
  let ns := List.range (cs.length + 1)
  if isLongest then ns.reverse else ns

/-- A text without the start that fits a pattern, the shortest or the longest. -/
def dropStart (p : Pattern) (isLongest : Bool) (cs : List Char) : List Char :=
  match (lengths isLongest cs).find? fun n ↦ p.covers (cs.take n) with
  | some n => cs.drop n
  | none => cs

/-- A text without the end that fits a pattern, the shortest or the longest. -/
def dropEnd (p : Pattern) (isLongest : Bool) (cs : List Char) : List Char :=
  match (lengths isLongest cs).find? fun n ↦ p.covers (cs.drop (cs.length - n)) with
  | some n => cs.take (cs.length - n)
  | none => cs

end Pattern

end NetReconcile.Shell
