import NetReconcile.Text.CharClass

/-!
# Quoted text in messages

A message that names a file or a list of networks writes each name between double quotes, so that
blanks and line ends in a name stay visible. Inside the quotes a quote and a backslash are preceded
by a backslash, the common control characters have a letter, and every other character that cannot
be seen by itself is given by its code point. A list of names stands in square brackets.

The name can be read back: an escape starts with a backslash, and a backslash of the name itself is
written twice.
-/

namespace NetReconcile.Text

/-- A code point as a message gives it, in lower case hexadecimal digits without leading zeros. -/
def codePoint (c : Char) : List Char :=
  ['\\', 'u', '\x7b'] ++ Nat.toDigits 16 c.toNat ++ ['\x7d']

/-- One character as it stands between quotes. -/
def quoteChar (c : Char) : List Char :=
  match c with
  | '\x00' => ['\\', '0']
  | '\t' => ['\\', 't']
  | '\r' => ['\\', 'r']
  | '\n' => ['\\', 'n']
  | '\\' => ['\\', '\\']
  | '"' => ['\\', '"']
  | c => if isExtending c || isFiller c || isUnprintable c then codePoint c else [c]

/-- A text between double quotes. -/
def quoted (s : String) : String :=
  "\"" ++ String.ofList (s.toList.flatMap quoteChar) ++ "\""

/-- A list of texts, each between double quotes, in square brackets. -/
def quotedList (xs : List String) : String :=
  "[" ++ ", ".intercalate (xs.map quoted) ++ "]"

end NetReconcile.Text
