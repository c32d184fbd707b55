import NetReconcile.Json.Cursor

/-!
# Strings and numbers in JSON

A string is read in two ways. Where its value is wanted, escapes are resolved, surrogates have to
come in pairs, and the bytes have to be UTF-8. Where it is only passed over, an escape has to have
the right form, but it may name half of a pair, and the bytes may be anything.

Numbers are read only to name them in an error, and are otherwise passed over.
-/

namespace NetReconcile.Json

/-! ### Escapes -/

/-- The value of a byte that is a hexadecimal digit. -/
def hexByte? (b : UInt8) : Option Nat :=
  Text.hexDigit? (Char.ofNat b.toNat)

/-- The value of four hexadecimal digits. -/
def hexValue? : List UInt8 → Option Nat
  | [a, b, c, d] => do
    return (((← hexByte? a) * 16 + (← hexByte? b)) * 16 + (← hexByte? c)) * 16 + (← hexByte? d)
  | _ => none

/-- Reads the four digits of an escape that gives a code unit. -/
def hexEscape : Reader Nat := do
  let digits := (← get).rest.take 4
  modify (Cursor.advanceBy 4)
  if digits.length < 4 then failHere .eofString
  match hexValue? digits with
  | some n => return n
  | none => failHere .invalidEscape

/-- The byte that an escape of one letter stands for. -/
def letterEscape? (b : UInt8) : Option UInt8 :=
  if b = byte '"' || b = byte '\\' || b = byte '/' then some b
  else if b = byte 'b' then some 8
  else if b = byte 'f' then some 12
  else if b = byte 'n' then some 10
  else if b = byte 'r' then some 13
  else if b = byte 't' then some 9
  else none

/-- The UTF-8 bytes of a code point. -/
def codePointBytes (n : Nat) : List UInt8 :=
  String.utf8EncodeChar (Char.ofNat n)

/-- Passes a byte that the second half of a surrogate pair needs. -/
def pairByte (c : Char) : Reader Unit := do
  match ← peek with
  | none => failHere .eofString
  | some b =>
    skip
    if b ≠ byte c then failHere .unfinishedSurrogate

/-- Reads the bytes of a character that is given by code units, after `\u`. -/
def unicodeEscape : Reader (List UInt8) := do
  let n ← hexEscape
  if 0xDC00 ≤ n && n ≤ 0xDFFF then failHere .loneSurrogate
  if n < 0xD800 || 0xDBFF < n then return codePointBytes n
  pairByte '\\'
  pairByte 'u'
  let m ← hexEscape
  if m < 0xDC00 || 0xDFFF < m then failHere .loneSurrogate
  return codePointBytes (0x10000 + (n - 0xD800) * 0x400 + (m - 0xDC00))

/-- Reads the bytes that an escape stands for, after its backslash. -/
def escape : Reader (List UInt8) := do
  match ← next with
  | none => failHere .eofString
  | some b =>
    if b = byte 'u' then unicodeEscape
    else
      match letterEscape? b with
      | some e => return [e]
      | none => failHere .invalidEscape

/-- Passes over an escape, after its backslash. -/
def skipEscape : Reader Unit := do
  match ← next with
  | none => failHere .eofString
  | some b =>
    if b = byte 'u' then discard hexEscape
    else if (letterEscape? b).isNone then failHere .invalidEscape

/-! ### Strings -/

/-- Whether a byte stands for itself in a string. -/
def isPlain (b : UInt8) : Bool :=
  b ≠ byte '"' && b ≠ byte '\\' && 32 ≤ b

/-- Reads the bytes of a string up to its closing quote. Each round passes at least one byte, so as
many rounds as there are bytes are enough. -/
def stringBytes : Nat → List UInt8 → Reader (List UInt8)
  | 0, _ => failHere .eofString
  | fuel + 1, read => do
    let plain := (← get).rest.takeWhile isPlain
    modify (Cursor.advanceWhile isPlain)
    match ← next with
    | none => failHere .eofString
    | some b =>
      if b = byte '"' then return read ++ plain
      else if b = byte '\\' then
        let bytes ← escape
        stringBytes fuel (read ++ plain ++ bytes)
      else failHere .controlCharacter

/-- How many bytes there are from the first sequence on that is not UTF-8. -/
def strayLength : Nat → List UInt8 → Nat
  | 0, bs => bs.length
  | _, [] => 0
  | fuel + 1, b :: bs =>
    match Text.readChar b bs with
    | (none, _) => bs.length + 1
    | (some _, k) => strayLength fuel (bs.drop k)

/-- Reads a string after its opening quote. Of one that is not UTF-8, the place is counted back from
the closing quote, by the bytes that follow in the value of the string. -/
def string : Reader String := do
  let bytes ← stringBytes ((← get).rest.length + 1) []
  match Text.ofBytes? bytes with
  | some s => return s
  | none =>
    let here := (← get).here
    failAt { here with column := here.column - strayLength bytes.length bytes } .invalidCodePoint

/-- Passes over the rest of a string. A stream has taken a control character when it complains about
it, while a text at hand has not been passed up to it. -/
def skipStringBytes : Nat → Reader Unit
  | 0 => failHere .eofString
  | fuel + 1 => do
    modify (Cursor.advanceWhile isPlain)
    match ← peek with
    | none => failHere .eofString
    | some b =>
      if b = byte '"' then skip
      else if b = byte '\\' then
        skip
        skipEscape
        skipStringBytes fuel
      else failTaken .controlCharacter

/-- Passes over a string after its opening quote. -/
def skipString : Reader Unit := do
  skipStringBytes ((← get).rest.length + 1)

/-! ### Numbers that are passed over -/

/-- Whether a byte is a decimal digit. -/
def isDigit (b : UInt8) : Bool :=
  48 ≤ b && b ≤ 57

/-- Passes digits. -/
def skipDigits : Reader Unit :=
  modify (Cursor.advanceWhile isDigit)

/-- Passes one of the given characters, if it comes next. -/
def skipOne (cs : List Char) : Reader Bool := do
  if (← peek).any fun b ↦ cs.any (b = byte ·) then
    skip
    return true
  else return false

/-- Passes over an exponent, if there is one. -/
def skipExponent : Reader Unit := do
  if ← skipOne ['e', 'E'] then
    discard (skipOne ['+', '-'])
    match ← next with
    | some b => if isDigit b then skipDigits else failHere .invalidNumber
    | none => failHere .invalidNumber

/-- Passes over a fraction, if there is one. -/
def skipFraction : Reader Unit := do
  if ← skipOne ['.'] then
    if (← peek).any isDigit then skipDigits else failAhead .invalidNumber

/-- Passes over a number after its sign. -/
def skipNumber : Reader Unit := do
  match ← next with
  | some 48 => if (← peek).any isDigit then failAhead .invalidNumber
  | some b => if isDigit b then skipDigits else failHere .invalidNumber
  | none => failHere .invalidNumber
  skipFraction
  skipExponent

/-! ### Numbers that are named in an error -/

/-- The whole number that digits stand for, cut off before it exceeds a bound: its value, and the
digits that are left. -/
def boundedDigits (bound : Nat) : Nat → List UInt8 → Nat × List UInt8
  | n, [] => (n, [])
  | n, b :: bs =>
    let m := n * 10 + (b.toNat - 48)
    if isDigit b && m ≤ bound then boundedDigits bound m bs else (n, b :: bs)

/-- Takes digits as far as they stay within a bound, onto a value read so far. The second part of
the answer is how many were taken. -/
def takeDigits (bound n : Nat) : Reader (Nat × Nat) := do
  let c ← get
  let (m, rest) := boundedDigits bound n c.rest
  let count := c.rest.length - rest.length
  modify (Cursor.advanceBy count)
  return (m, count)

/-- The largest number that a fraction is read into before further digits are dropped. -/
def significandMax : Nat :=
  UInt64.size - 1

/-- A power of ten of double precision. -/
def powerOfTen (n : Nat) : Float :=
  Float.ofScientific 1 false n

/-- A number of double precision from a whole number and a power of ten, in steps that a double can
hold. `none` if it is too large. -/
def scale : Nat → Float → Int → Option Float
  | 0, f, _ => some f
  | fuel + 1, f, e =>
    if e.natAbs ≤ 308 then
      if 0 ≤ e then
        let g := f * powerOfTen e.natAbs
        if g.isInf then none else some g
      else some (f / powerOfTen e.natAbs)
    else if f == 0 then some f
    else if 0 ≤ e then none
    else scale fuel (f / powerOfTen 308) (e + 308)

/-- The number of double precision for a whole number and a power of ten. -/
def floatOf (positive : Bool) (significand : Nat) (e : Int) : Reader Found := do
  match scale 8 (Float.ofNat significand) e with
  | some f => return .float (if positive then f else -f)
  | none => failTaken .numberOutOfRange

/-- The largest exponent that is read digit by digit. -/
def exponentMax : Nat :=
  UInt32.size / 2 - 1

/-- Reads an exponent after its letter. One that is too large gives zero or an error. -/
def exponentPart (positive : Bool) (significand : Nat) (e : Int) : Reader Found := do
  skip
  let negative := (← peek) = some (byte '-')
  discard (skipOne ['+', '-'])
  match ← peek with
  | none => failHere .eofValue
  | some b => if !isDigit b then
      skip
      failHere .invalidNumber
  let (n, _) ← takeDigits exponentMax 0
  if (← peek).any isDigit then
    skip
    if significand ≠ 0 && !negative then failHere .numberOutOfRange
    skipDigits
    return .float (if positive then 0.0 else -0.0)
  floatOf positive significand (if negative then e - n else e + n)

/-- Reads what may follow the digits of a fraction or of a long number. -/
def afterDigits (positive : Bool) (significand : Nat) (e : Int) : Reader Found := do
  if (← peek).any fun b ↦ b = byte 'e' || b = byte 'E' then exponentPart positive significand e
  else floatOf positive significand e

/-- Reads a fraction after its point. Digits beyond the largest significand are passed over. -/
def fractionPart (positive : Bool) (significand : Nat) (e : Int) : Reader Found := do
  skip
  let (m, count) ← takeDigits significandMax significand
  if count = 0 && !((← peek).any isDigit) then
    if (← peek).isNone then failAhead .eofValue else failAhead .invalidNumber
  skipDigits
  afterDigits positive m (e - count)

/-- Reads what follows the digits of a whole number. -/
def afterWhole (positive : Bool) (n : Nat) : Reader Found := do
  match ← peek with
  | some 46 => fractionPart positive n 0
  | b =>
    if b.any fun b ↦ b = byte 'e' || b = byte 'E' then exponentPart positive n 0
    else if positive then return .unsigned n
    else if n = 0 || UInt64.size / 2 < n then return .float (-(Float.ofNat n))
    else return .negative n

/-- Reads a whole number that has more digits than a word of 64 bits can hold. -/
def longWhole (positive : Bool) (n : Nat) : Reader Found := do
  let digits := ((← get).rest.takeWhile isDigit).length
  skipDigits
  if (← peek) = some (byte '.') then fractionPart positive n digits
  else afterDigits positive n digits

/-- Reads a number after its sign. -/
def number (positive : Bool) : Reader Found := do
  match ← next with
  | none => failHere .eofValue
  | some 48 =>
    if (← peek).any isDigit then failAhead .invalidNumber
    afterWhole positive 0
  | some b =>
    if !isDigit b then failHere .invalidNumber
    let (n, _) ← takeDigits significandMax (b.toNat - 48)
    if (← peek).any isDigit then longWhole positive n else afterWhole positive n

end NetReconcile.Json
