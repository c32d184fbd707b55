/-!
# Numbers written in digits

Address parts and counts are read from digits alone: no sign, no separators, no blanks. Leading
zeros do not change the value; a reader that forbids them says so itself.
-/

namespace NetReconcile.Text

/-- The value of a hexadecimal digit of either case. -/
def hexDigit? (c : Char) : Option Nat :=
  if '0' ≤ c && c ≤ '9' then some (c.toNat - 48)
  else if 'a' ≤ c && c ≤ 'f' then some (c.toNat - 87)
  else if 'A' ≤ c && c ≤ 'F' then some (c.toNat - 55)
  else none

/-- The value of a digit in a base of at most sixteen. -/
def digit? (base : Nat) (c : Char) : Option Nat :=
  (hexDigit? c).filter (· < base)

/-- The value of a run of digits that continues a value read so far. -/
def digitsFrom? (base : Nat) : Nat → List Char → Option Nat
  | n, [] => some n
  | n, c :: cs => (digit? base c).bind fun d ↦ digitsFrom? base (n * base + d) cs

/-- The value of a text that consists of one or more digits. -/
def digits? (base : Nat) (cs : List Char) : Option Nat :=
  if cs.isEmpty then none else digitsFrom? base 0 cs

/-- The value of a count below a bound: digits in base ten after an optional plus sign. -/
def count? (bound : Nat) (s : String) : Option Nat :=
  (digits? 10 (match s.toList with
    | '+' :: cs => cs
    | cs => cs)).filter (· < bound)

/-- A number in base ten without leading zeros. -/
def decimal (n : Nat) : List Char :=
  Nat.toDigits 10 n

end NetReconcile.Text
