/-!
# Blank characters, trimming and fields

The literals of a settings file, the addresses that the kernel reports and the lines of a resolver
file are all read up to blanks at their ends, and a resolver line is read field by field. A blank
is a character with the Unicode property `White_Space`, which is wider than the six blanks of ASCII
and does not contain the zero width space or the byte order mark.

## Main definitions

* `Char.isBlank`: the property.
* `trim`: a text without the blanks at its ends.
* `fields`: the maximal runs of characters that are not blank, in order.
-/

namespace NetReconcile.Text

/-- Characters with the Unicode property `White_Space`. -/
def isBlank (c : Char) : Bool :=
  ('\t' ≤ c && c ≤ '\r') || c = ' ' || c = '\u0085' || c = '\u00a0' || c = '\u1680' ||
    ('\u2000' ≤ c && c ≤ '\u200a') || c = '\u2028' || c = '\u2029' || c = '\u202f' ||
    c = '\u205f' || c = '\u3000'

/-! ### Trimming -/

/-- A list of characters without the blanks at its end. -/
def trimEnd (cs : List Char) : List Char :=
  (cs.reverse.dropWhile isBlank).reverse

/-- A list of characters without the blanks at its ends. -/
def trimChars (cs : List Char) : List Char :=
  trimEnd (cs.dropWhile isBlank)

/-- A text without the blanks at its ends. -/
def trim (s : String) : String :=
  String.ofList (trimChars s.toList)

/-- A text with its ASCII letters in lower case; every other letter keeps its case. -/
def lowerAscii (s : String) : String :=
  String.ofList (s.toList.map Char.toLower)

/-! ### Fields -/

/-- The runs of characters that are not blank. Empty runs, which stand between two blanks in a row
and at the ends, are not fields. -/
def fields (cs : List Char) : List (List Char) :=
  (cs.splitOnP isBlank).filter (!·.isEmpty)

/-- The fields of a line of blanks are none. -/
example : fields [' ', '\t'] = [] := by decide

example : fields " nameserver\u00a08.8.8.8 ".toList = ["nameserver".toList, "8.8.8.8".toList] := by
  decide

end NetReconcile.Text
