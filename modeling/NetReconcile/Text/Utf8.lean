/-!
# Bytes as text

What a program prints and what a file holds are bytes. Read strictly, bytes that are not UTF-8 are
no text at all. For display they are read loosely: each longest start of a character that is not
carried to its end, and each byte that can start none, is shown as the replacement character.

The continuation bytes that a first byte allows are those of the table of well-formed sequences in
the Unicode standard; a byte that breaks a sequence is not consumed with it, so it can start the
next character.
-/

namespace NetReconcile.Text

/-- The bytes that may follow a first byte: the range of the second byte, and how many further
continuation bytes come after it. `none` for a byte that starts no sequence of several bytes. -/
def leadOf (b : UInt8) : Option (UInt8 × UInt8 × Nat) :=
  if 0xC2 ≤ b && b ≤ 0xDF then some (0x80, 0xBF, 0)
  else if b = 0xE0 then some (0xA0, 0xBF, 1)
  else if b = 0xED then some (0x80, 0x9F, 1)
  else if 0xE1 ≤ b && b ≤ 0xEF then some (0x80, 0xBF, 1)
  else if b = 0xF0 then some (0x90, 0xBF, 2)
  else if 0xF1 ≤ b && b ≤ 0xF3 then some (0x80, 0xBF, 2)
  else if b = 0xF4 then some (0x80, 0x8F, 2)
  else none

/-- Whether a byte continues a character. -/
def isContinuation (b : UInt8) : Bool :=
  0x80 ≤ b && b ≤ 0xBF

/-- The bits that a continuation byte adds. -/
def extendBy (value : Nat) (b : UInt8) : Nat :=
  value * 64 + (b.toNat - 0x80)

/-- Reads `n` continuation bytes onto the bits read so far. The answer has no character if a byte is
missing, and always says how many bytes belong to the sequence. -/
def readTail : Nat → Nat → List UInt8 → Option Char × Nat
  | 0, value, _ => (some (Char.ofNat value), 0)
  | _ + 1, _, [] => (none, 0)
  | n + 1, value, b :: bs =>
    if isContinuation b then
      let (c, k) := readTail n (extendBy value b) bs
      (c, k + 1)
    else (none, 0)

/-- Reads one character, or one ill-formed sequence, from a first byte and the bytes after it. The
number says how many of the bytes after it belong to it. -/
def readChar (b : UInt8) (bs : List UInt8) : Option Char × Nat :=
  if b < 0x80 then (some (Char.ofNat b.toNat), 0)
  else
    match leadOf b, bs with
    | some (low, high, more), b₂ :: bs₂ =>
      if low ≤ b₂ && b₂ ≤ high then
        let lead := b.toNat - (if more = 0 then 0xC0 else if more = 1 then 0xE0 else 0xF0)
        let (c, k) := readTail more (extendBy lead b₂) bs₂
        (c, k + 1)
      else (none, 0)
    | _, _ => (none, 0)

/-- All characters of a list of bytes, with `none` for each ill-formed sequence. -/
def decode : List UInt8 → List (Option Char)
  | [] => []
  | b :: bs =>
    let (c, k) := readChar b bs
    c :: decode (bs.drop k)
termination_by bs => bs.length
decreasing_by simp only [List.length_drop, List.length_cons]; omega

/-- Bytes as they are displayed: an ill-formed sequence is one replacement character. -/
def lossy (bs : List UInt8) : String :=
  String.ofList ((decode bs).map (·.getD '\ufffd'))

/-- Bytes as text, if they are UTF-8. -/
def ofBytes? (bs : List UInt8) : Option String :=
  String.fromUTF8? ⟨bs.toArray⟩

/-- The UTF-8 bytes of a text. -/
def toBytes (s : String) : List UInt8 :=
  s.toUTF8.toList

end NetReconcile.Text
