import NetReconcile.Decimal.Shortest
import NetReconcile.Text.Quoted
import NetReconcile.Text.Utf8

/-!
# Reading JSON, with positions

JSON is read from bytes, and an error says at which line and column it was found. Lines are counted
from one; the column is the number of bytes of the line that have been passed.

Which bytes count as passed depends on the kind of error, and for some errors on where the bytes
come from. A reader that holds the whole text looks at the next byte without passing it. A reader of
a stream has to take a byte to look at it, and reports it as passed. There are three positions:

* `Cursor.here`: after the bytes that have been used;
* `Cursor.ahead`: one byte further, where the byte that is complained about stands;
* `Cursor.taken`: after the bytes that have been taken from the source, when the next one has been
  looked at.
-/

namespace NetReconcile.Json

/-! ### Errors -/

/-- A value that stands where another kind of value should be. -/
inductive Found
  | null
  | bool (value : Bool)
  | unsigned (value : Nat)
  | negative (magnitude : Nat)
  | float (value : Float)
  | string (value : String)
  | sequence
  | map

/-- The wording of a value in a message. -/
def Found.text : Found → String
  | null => "null"
  | bool value => s!"boolean `{value}`"
  | unsigned value => s!"integer `{value}`"
  | negative magnitude => s!"integer `-{magnitude}`"
  | float value => s!"floating point `{Decimal.floatText value}`"
  | string value => s!"string {Text.quoted value}"
  | sequence => "sequence"
  | map => "map"

/-- What is wrong with a JSON text. -/
inductive Fault
  | eofValue
  | eofObject
  | eofList
  | eofString
  | expectedColon
  | expectedListCommaOrEnd
  | expectedObjectCommaOrEnd
  | expectedIdent
  | expectedValue
  | invalidEscape
  | invalidNumber
  | numberOutOfRange
  | invalidCodePoint
  | controlCharacter
  | keyNotString
  | loneSurrogate
  | unfinishedSurrogate
  | trailingComma
  | trailingCharacters
  | invalidType (found : Found) (expected : String)
  | invalidLength (length : Nat) (expected : String)
  | unknownVariant (name : String) (known : List String)
  | duplicateField (name : String)

/-- Alternatives, as a message lists them. -/
def oneOf (names : List String) : String :=
  match names.map fun n ↦ s!"`{n}`" with
  | [a, b] => s!"{a} or {b}"
  | quoted => "one of " ++ ", ".intercalate quoted

/-- The wording of a fault. -/
def Fault.text : Fault → String
  | eofValue => "EOF while parsing a value"
  | eofObject => "EOF while parsing an object"
  | eofList => "EOF while parsing a list"
  | eofString => "EOF while parsing a string"
  | expectedColon => "expected `:`"
  | expectedListCommaOrEnd => "expected `,` or `]`"
  | expectedObjectCommaOrEnd => "expected `,` or `\x7d`"
  | expectedIdent => "expected ident"
  | expectedValue => "expected value"
  | invalidEscape => "invalid escape"
  | invalidNumber => "invalid number"
  | numberOutOfRange => "number out of range"
  | invalidCodePoint => "invalid unicode code point"
  | controlCharacter => "control character (\\u0000-\\u001F) found while parsing a string"
  | keyNotString => "key must be a string"
  | loneSurrogate => "lone leading surrogate in hex escape"
  | unfinishedSurrogate => "unexpected end of hex escape"
  | trailingComma => "trailing comma"
  | trailingCharacters => "trailing characters"
  | invalidType found expected => s!"invalid type: {found.text}, expected {expected}"
  | invalidLength length expected => s!"invalid length {length}, expected {expected}"
  | unknownVariant name known => s!"unknown variant `{name}`, expected {oneOf known}"
  | duplicateField name => s!"duplicate field `{name}`"

/-- A place in a text. -/
structure Position where
  line : Nat := 1
  column : Nat := 0
  deriving DecidableEq, Repr

/-- The place after one more byte. -/
def Position.after (p : Position) (b : UInt8) : Position :=
  if b = 10 then ⟨p.line + 1, 0⟩ else ⟨p.line, p.column + 1⟩

/-- A fault, and where it was found. -/
structure Error where
  fault : Fault
  position : Position

/-- The wording of an error. -/
def Error.message (e : Error) : String :=
  s!"{e.fault.text} at line {e.position.line} column {e.position.column}"

/-! ### Cursors -/

/-- Where the bytes come from. -/
inductive Source
  /-- They are all at hand. -/
  | text
  /-- They are taken one after the other. -/
  | stream
  deriving DecidableEq, Repr

/-- A source, the place reached in it, and the bytes from there on. -/
structure Cursor where
  source : Source
  here : Position := {}
  rest : List UInt8

namespace Cursor

/-- Passes one byte. -/
def advance (c : Cursor) : Cursor :=
  match c.rest with
  | [] => c
  | b :: bs => { c with here := c.here.after b, rest := bs }

/-- Passes a number of bytes. -/
def advanceBy (n : Nat) (c : Cursor) : Cursor :=
  n.repeat advance c

/-- The place after the next byte. -/
def ahead (c : Cursor) : Position :=
  c.advance.here

/-- The place that the source has been taken up to, when the next byte has been looked at. -/
def taken (c : Cursor) : Position :=
  match c.source with
  | .text => c.here
  | .stream => c.ahead

/-- Passes bytes from a place on while they satisfy a condition. -/
def passWhile (p : UInt8 → Bool) : Position → List UInt8 → Position × List UInt8
  | here, [] => (here, [])
  | here, b :: bs => if p b then passWhile p (here.after b) bs else (here, b :: bs)

/-- Passes bytes while they satisfy a condition. -/
def advanceWhile (p : UInt8 → Bool) (c : Cursor) : Cursor :=
  let (here, rest) := passWhile p c.here c.rest
  { c with here, rest }

end Cursor

/-! ### Readers -/

/-- A part of a JSON text is read from a cursor, which stays where an error was found. -/
abbrev Reader :=
  EStateM Error Cursor

variable {α : Type}

/-- Fails at a place. -/
def failAt (position : Position) (fault : Fault) : Reader α :=
  throw ⟨fault, position⟩

/-- Fails after the bytes that have been used. -/
def failHere (fault : Fault) : Reader α := do
  failAt (← get).here fault

/-- Fails at the next byte. -/
def failAhead (fault : Fault) : Reader α := do
  failAt (← get).ahead fault

/-- Fails after the bytes that have been taken. -/
def failTaken (fault : Fault) : Reader α := do
  failAt (← get).taken fault

/-- The next byte. -/
def peek : Reader (Option UInt8) :=
  return (← get).rest.head?

/-- Passes the next byte. -/
def skip : Reader Unit :=
  modify Cursor.advance

/-- Passes the next byte, and gives it. -/
def next : Reader (Option UInt8) := do
  let b ← peek
  skip
  return b

/-- Whether a byte may stand between the parts of a JSON text. -/
def isSpace (b : UInt8) : Bool :=
  b = 32 || b = 10 || b = 9 || b = 13

/-- The next byte that is no space. -/
def token : Reader (Option UInt8) := do
  modify (Cursor.advanceWhile isSpace)
  peek

/-- The byte of an ASCII character. -/
def byte (c : Char) : UInt8 :=
  c.toNat.toUInt8

/-- Passes the bytes of a word. -/
def word : List Char → Reader Unit
  | [] => pure ()
  | c :: cs => do
    match ← next with
    | none => failHere .eofValue
    | some b => if b = byte c then word cs else failHere .expectedIdent

end NetReconcile.Json
