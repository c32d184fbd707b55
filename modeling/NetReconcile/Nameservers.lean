import NetReconcile.Address.Basic
import NetReconcile.Text.Blank

/-!
# Nameservers in a resolver file

A resolver file is read line by line. A line names a nameserver when its first field is the word
`nameserver` and its second field is an address; further fields, comments among them, say nothing,
and any other line is passed over. A carriage return at the end of a line is a blank like any other.
-/

namespace NetReconcile

/-- The nameserver that a line names. -/
def nameserverOfLine? (line : List Char) : Option IpAddress :=
  match Text.fields line with
  | keyword :: address :: _ =>
    if keyword = "nameserver".toList then IpAddress.ofChars? address else none
  | _ => none

/-- The nameservers of a resolver file, in the order of its lines. -/
def parseNameservers (contents : String) : List IpAddress :=
  (contents.toList.splitOn '\n').filterMap nameserverOfLine?

/-- The expected nameservers that a resolver file does not name, in the order in which they are
expected. -/
def missingNameservers (expected : List IpAddress) (contents : String) : List IpAddress :=
  expected.filter (· ∉ parseNameservers contents)

end NetReconcile
