import NetReconcile.Text.Utf8

/-!
# Texts of bytes

A shell and its programs know bytes, not characters: they count, cut and compare bytes. Their texts
are strings here, each character of which stands for the byte of its number. A text of this kind is
made from an ordinary one, whose characters may be several bytes each, and read back as one.
-/

namespace NetReconcile.Shell

/-- Bytes as a text of bytes. -/
def ofBytes (bs : List UInt8) : String :=
  String.ofList (bs.map fun b ↦ Char.ofNat b.toNat)

/-- The bytes of a text of bytes. -/
def toBytes (s : String) : List UInt8 :=
  s.toList.map (·.toNat.toUInt8)

/-- An ordinary text as a text of bytes. -/
def ofText (s : String) : String :=
  ofBytes (Text.toBytes s)

/-- The ordinary text that bytes stand for. -/
def toText (s : String) : String :=
  Text.lossy (toBytes s)

/-- The character that stands for a byte. -/
def byteChar (n : Nat) : Char :=
  Char.ofNat (n % 256)

end NetReconcile.Shell
