import NetReconcile.Shell.Bytes
import NetReconcile.Shell.Number

/-!
# Escapes

`echo` and `printf` replace escapes in what they write. There are two families of programs: those
that are part of a shell and those on disk. A format gives a byte by up to three octal digits; an
argument by a zero and up to three more, or without the zero as well. The programs on disk also know
hexadecimal digits, and outside the lines of `echo` the numbers of characters.
-/

namespace NetReconcile.Shell

/-- The two families of programs. -/
inductive Family
  | shell
  | disk
  deriving DecidableEq, Repr

/-- Where an escape stands. -/
inductive EscapePlace
  /-- In a format. -/
  | format
  /-- In an argument that a format has a place for. -/
  | argument
  /-- In a line that `echo` writes. -/
  | line
  deriving DecidableEq, Repr

/-- What an escape stands for. -/
inductive Escape
  | chars (cs : List Char) (rest : List Char)
  /-- Nothing is written any more. -/
  | stop
  | refused (message : String)

/-- The escapes of one letter. -/
def letterEscapes : List (Char × Nat) :=
  [('a', 7), ('b', 8), ('e', 27), ('f', 12), ('n', 10), ('r', 13), ('t', 9), ('v', 11), ('\\', 92)]

/-- The number that digits of a base stand for. -/
def valueOf (base : Nat) (ds : List Char) : Nat :=
  (Text.digits? base ds).getD 0

/-- A character that is given by its number. Only those of one byte are written as they are. -/
def characterNumbered (n : Nat) : List Char :=
  let digits (places : Nat) :=
    let ds := (Nat.toDigits 16 n).map Char.toUpper
    List.replicate (places - ds.length) '0' ++ ds
  if n < 128 then [Char.ofNat n]
  else if n < 0x10000 then '\\' :: 'u' :: digits 4
  else '\\' :: 'U' :: digits 8

/-- Reads the number of a character, which has exactly the given number of digits. -/
def readCharacterNumber (count : Nat) (cs : List Char) : Escape :=
  let (ds, rest) := takeDigits 16 count cs
  if ds.length < count then .refused "missing hexadecimal number in escape"
  else .chars (characterNumbered (valueOf 16 ds)) rest

/-- Reads a byte that is given by hexadecimal digits. -/
def readHexadecimalByte (cs : List Char) : Escape :=
  let (ds, rest) := takeDigits 16 2 cs
  if ds.isEmpty then .refused "missing hexadecimal number in escape"
  else .chars [byteChar (valueOf 16 ds)] rest

/-- Reads an escape that only programs on disk know. In a line of `echo`, these are bytes alone. -/
def readDiskEscape (isLine : Bool) : List Char → Option Escape
  | 'x' :: cs =>
    if isLine && (takeDigits 16 2 cs).1.isEmpty then none else some (readHexadecimalByte cs)
  | '"' :: cs => if isLine then none else some (.chars ['"'] cs)
  | 'u' :: cs => if isLine then none else some (readCharacterNumber 4 cs)
  | 'U' :: cs => if isLine then none else some (readCharacterNumber 8 cs)
  | _ => none

/-- Drops the zero before the octal digits of a byte. -/
def dropLeadingZero : List Char → List Char
  | '0' :: c :: cs => if (Text.digit? 8 c).isSome then c :: cs else '0' :: c :: cs
  | cs => cs

/-- Reads an escape after its backslash. An unknown one stands for itself. -/
def readEscape (family : Family) (place : EscapePlace) (cs : List Char) : Escape :=
  match if family = .disk then readDiskEscape (place = .line) cs else none with
  | some escape => escape
  | none =>
    let (octal, afterOctal) :=
      takeDigits 8 3 (if place = .format then cs else dropLeadingZero cs)
    if !octal.isEmpty then .chars [byteChar (valueOf 8 octal)] afterOctal
    else
      match cs with
      | [] => .chars ['\\'] []
      | c :: rest =>
        if c = 'c' && (place ≠ .format || family = .disk) then .stop
        else
          match letterEscapes.find? (·.1 = c) with
          | some (_, n) => .chars [Char.ofNat n] rest
          | none => .chars ['\\', c] rest

/-- A text whose escapes have been replaced. -/
structure Unescaped where
  written : List Char
  /-- Whether more may be written after it. -/
  goesOn : Bool := true
  /-- What an escape was refused for. -/
  refusal : Option String := none
  deriving Repr

/-- Replaces the escapes of a text. Each round passes at least one character. -/
def unescapeFrom (family : Family) (place : EscapePlace) : Nat → List Char → Unescaped
  | 0, _ | _, [] => { written := [] }
  | fuel + 1, c :: cs =>
    match if c = '\\' then readEscape family place cs else .chars [c] cs with
    | .stop => { written := [], goesOn := false }
    | .refused message => { written := [], goesOn := false, refusal := some message }
    | .chars written rest =>
      let after := unescapeFrom family place fuel rest
      { after with written := written ++ after.written }

/-- Replaces the escapes of a text. -/
def unescape (family : Family) (place : EscapePlace) (cs : List Char) : Unescaped :=
  unescapeFrom family place (cs.length + 1) cs

end NetReconcile.Shell
