import NetReconcile.Text.Digits

/-!
# Numbers in arguments

An argument is read as a number from its start, as far as it is one. A whole number has its base
from how it starts: `0x` for sixteen, another zero for eight. A fraction is kept as a quotient,
rounded to the bits that a program calculates with, and only its decimal places are ever asked for.

## Main definitions

* `readWhole`: the whole number that a text starts with.
* `readReal`: the number that a text starts with.
* `Real.fixed`, `Real.scientific`, `Real.general`: its three written forms.
-/

namespace NetReconcile.Shell

/-! ### Whole numbers -/

/-- Whether a character is passed before a number. -/
def isSpace (c : Char) : Bool :=
  c = ' ' || ('\t' ≤ c && c ≤ '\r')

/-- Splits the sign off a number: whether it is negative, and the rest. -/
def takeSign : List Char → Bool × List Char
  | '-' :: cs => (true, cs)
  | '+' :: cs => (false, cs)
  | cs => (false, cs)

/-- The digits of a base that a text starts with, at most the given number, and the rest. -/
def takeDigits (base count : Nat) (cs : List Char) : List Char × List Char :=
  let ds := (cs.take count).takeWhile fun c ↦ (Text.digit? base c).isSome
  (ds, cs.drop ds.length)

/-- All digits of a base that a text starts with, and the rest. -/
def allDigits (base : Nat) (cs : List Char) : List Char × List Char :=
  takeDigits base cs.length cs

/-- Splits the mark of a base off a number. -/
def takeBase : List Char → Nat × List Char
  | '0' :: x :: c :: cs =>
    if (x = 'x' || x = 'X') && (Text.digit? 16 c).isSome then (16, c :: cs)
    else (8, '0' :: x :: c :: cs)
  | '0' :: cs => (8, '0' :: cs)
  | cs => (10, cs)

/-- The whole number that a text starts with, and the rest. `none` if it starts with none. A base of
ten can be demanded. -/
def readWhole (decimal : Bool) (cs : List Char) : Option (Int × List Char) := do
  let (negative, cs) := takeSign (cs.dropWhile isSpace)
  let (base, cs) := if decimal then (10, cs) else takeBase cs
  let (ds, rest) := allDigits base cs
  let n ← Text.digits? base ds
  return (if negative then -(n : Int) else n, rest)

/-- The whole number that a text is. -/
def whole? (decimal : Bool) (cs : List Char) : Option Int :=
  match readWhole decimal cs with
  | some (n, []) => some n
  | _ => none

/-- The bounds of a word of 64 bits. -/
def wordMax : Int :=
  Int64.maxValue.toInt

/-- The value of a word of 64 bits with sign that a number wraps around to. -/
def wrap (n : Int) : Int :=
  (Int64.ofInt n).toInt

/-! ### Fractions -/

/-- A number that need not be whole. A finite one is a quotient. -/
inductive Real
  | finite (negative : Bool) (num den : Nat)
  | infinite (negative : Bool)
  | undefined
  deriving DecidableEq, Repr

/-- A quotient, rounded to whole. A half goes to the even neighbour. -/
def roundDiv (num den : Nat) : Nat :=
  let q := num / den
  let twice := 2 * (num % den)
  if den < twice || (twice = den && q % 2 = 1) then q + 1 else q

/-- The largest power of a base that is at most a quotient, which is not zero: its exponent. It is
looked for downwards. -/
def floorLog (base num den : Nat) : Nat → Int → Int
  | 0, e => e
  | fuel + 1, e =>
    if Nat.pow base e.toNat * den ≤ num * Nat.pow base (-e).toNat then e
    else floorLog base num den fuel (e - 1)

/-- The exponent of the largest power of a base that is at most a quotient. -/
def magnitude (base num den : Nat) : Int :=
  floorLog base num den (num.log2 + den.log2 + 2) (num.log2 + 1)

/-- A quotient times a power. -/
def scaled (base num den : Nat) (e : Int) : Nat × Nat :=
  (num * Nat.pow base e.toNat, den * Nat.pow base (-e).toNat)

/-- A quotient rounded to a number of binary digits. -/
def roundBits (bits num den : Nat) : Nat × Nat :=
  if num = 0 then (0, 1)
  else
    let e := (bits : Int) - 1 - magnitude 2 num den
    let (n, d) := scaled 2 num den e
    scaled 2 (roundDiv n d) 1 (-e)

/-- Reads an exponent after its letter, if there is one. -/
def readExponent (letters : List Char) (cs : List Char) : Int × List Char :=
  match cs with
  | c :: rest =>
    let (negative, ds) := takeSign rest
    let (ds, after) := allDigits 10 ds
    if c ∈ letters && !ds.isEmpty then
      let n := (Text.digits? 10 ds).getD 0
      (if negative then -(n : Int) else n, after)
    else (0, cs)
  | [] => (0, [])

/-- Reads digits with a point among them: the number without the point, how many digits came after
it, and the rest. -/
def readPlaces (base : Nat) (cs : List Char) : Option (Nat × Nat × List Char) := do
  let (whole, rest) := allDigits base cs
  let (places, rest) :=
    match rest with
    | '.' :: more =>
      let (places, after) := allDigits base more
      if whole.isEmpty && places.isEmpty then ([], rest) else (places, after)
    | rest => ([], rest)
  return (← Text.digits? base (whole ++ places), places.length, rest)

/-- The words for numbers that are not finite. -/
def readName? (negative : Bool) (cs : List Char) : Option (Real × List Char) :=
  let starts (w : String) := (String.ofList (cs.take w.length)).toLower = w
  if starts "infinity" then some (.infinite negative, cs.drop 8)
  else if starts "inf" then some (.infinite negative, cs.drop 3)
  else if starts "nan" then some (.undefined, cs.drop 3)
  else none

/-- The largest exponent that is told apart from larger ones. -/
def exponentLimit : Int :=
  20000

/-- The largest power of two that a number of the given number of bits reaches, which goes with the
two sizes that numbers have. -/
def reach (bits : Nat) : Int :=
  if bits ≤ 53 then 1023 else 16383

/-- What has been read of a number. -/
structure ReadReal where
  value : Real
  rest : List Char
  /-- Whether the number is larger than any that is finite. -/
  isTooLarge : Bool := false

/-- A quotient as a number of the given number of bits. -/
def ofQuotient (bits : Nat) (negative : Bool) (num den : Nat) (rest : List Char) : ReadReal :=
  let (num, den) := roundBits bits num den
  if num ≠ 0 && reach bits < magnitude 2 num den then ⟨.infinite negative, rest, true⟩
  else ⟨.finite negative num den, rest, false⟩

/-- The number that a text starts with, rounded to the given number of bits. -/
def readReal (bits : Nat) (cs : List Char) : Option ReadReal :=
  let (negative, cs) := takeSign (cs.dropWhile isSpace)
  match readName? negative cs with
  | some (value, rest) => some { value, rest }
  | none => do
    let (base, digits) := takeBase cs
    let hexadecimal := base = 16
    let (n, places, rest) ←
      readPlaces (if hexadecimal then 16 else 10) (if hexadecimal then digits else cs)
    let (e, rest) := readExponent (if hexadecimal then ['p', 'P'] else ['e', 'E']) rest
    let e := max (-exponentLimit) (min exponentLimit e)
    let (num, den) :=
      if hexadecimal then scaled 2 n 1 (e - 4 * places) else scaled 10 n 1 (e - places)
    return ofQuotient bits negative num den rest

/-! ### Written forms -/

/-- A whole number with a point before its last digits. -/
def withPoint (n places : Nat) (keepPoint : Bool) : List Char :=
  let ds := Text.decimal n
  let ds := List.replicate (places + 1 - ds.length) '0' ++ ds
  let split := ds.length - places
  ds.take split ++ (if places = 0 && !keepPoint then [] else '.' :: ds.drop split)

/-- The form with a number of decimal places. -/
def fixed (num den places : Nat) (keepPoint : Bool) : List Char :=
  withPoint (roundDiv (num * Nat.pow 10 places) den) places keepPoint

/-- The digits of a number, one before the point, and its exponent. -/
def significant (num den places : Nat) : Nat × Int :=
  if num = 0 then (0, 0)
  else
    let e := magnitude 10 num den
    let (n, d) := scaled 10 num den (places - e)
    let m := roundDiv n d
    if m = Nat.pow 10 (places + 1) then (m / 10, e + 1) else (m, e)

/-- An exponent, which has a sign and at least two digits. -/
def exponentText (letter : Char) (e : Int) : List Char :=
  let ds := Text.decimal e.natAbs
  letter :: (if e < 0 then '-' else '+') :: (if ds.length < 2 then '0' :: ds else ds)

/-- The form with an exponent. -/
def scientific (letter : Char) (num den places : Nat) (keepPoint : Bool) : List Char :=
  let (m, e) := significant num den places
  withPoint m places keepPoint ++ exponentText letter e

/-- Takes zeros off the end of the places after a point, and the point if nothing is left. -/
def dropZeros (cs : List Char) : List Char :=
  if '.' ∈ cs then
    let short := (cs.reverse.dropWhile (· = '0')).reverse
    if short.getLast? = some '.' then short.dropLast else short
  else cs

/-- The shorter of the two forms for a number of digits. Zeros at its end are left out unless they
are asked for. -/
def general (letter : Char) (num den digits : Nat) (keepZeros : Bool) : List Char :=
  let digits := max digits 1
  let (m, e) := significant num den (digits - 1)
  let short (cs : List Char) := if keepZeros then cs else dropZeros cs
  if -4 ≤ e && e < digits then short (fixed num den (digits - 1 - e).toNat keepZeros)
  else short (withPoint m (digits - 1) keepZeros) ++ exponentText letter e

end NetReconcile.Shell
