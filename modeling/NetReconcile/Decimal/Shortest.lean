import NetReconcile.Text.Digits

/-!
# The shortest decimal of a binary number

A number of double precision stands for an interval of reals that round to it. Its shortest decimal
is the one with the fewest digits in that interval, and of those the nearest to the number itself;
of two that are equally near, the even one.

The number is taken apart into a whole number times a power of two, and everything is compared in
whole numbers. For each count of digits the two neighbours of the number on that decimal grid are
tried; if any point of the grid lies in the interval, so does one of them. With seventeen digits
there always is one.
-/

namespace NetReconcile.Decimal

/-- A decimal: digits as a whole number, and the power of ten that they are multiplied by. -/
structure Scaled where
  digits : Nat
  exponent : Int
  deriving DecidableEq, Repr

/-- A positive number of double precision: `mantissa * 2 ^ exponent`. `isPower` tells whether the
numbers below it are closer to each other than those above it. -/
structure Binary where
  mantissa : Nat
  exponent : Int
  isPower : Bool
  deriving DecidableEq, Repr

/-- Takes the bits of a positive finite number apart. -/
def Binary.ofBits (bits : UInt64) : Binary :=
  let hidden : Nat := 1 <<< 52
  let fraction := bits.toNat % hidden
  let biased := bits.toNat / hidden % 2048
  if biased = 0 then ⟨fraction, -1074, false⟩
  else ⟨hidden + fraction, (biased : Int) - 1075, fraction = 0 && 1 < biased⟩

/-- Numerator and denominator of `4 * mantissa * 2 ^ exponent / 10 ^ e`; all bounds of the interval
are multiples of the same quarter. -/
def Binary.quarters (b : Binary) (m : Nat) (e : Int) : Nat × Nat :=
  let num := m <<< b.exponent.toNat * Nat.pow 10 (-e).toNat
  let den := 1 <<< (-b.exponent).toNat * Nat.pow 10 e.toNat
  (num, den)

/-- Whether `d * 10 ^ e` rounds to the number: it lies between the midpoints to its neighbours, and
on one of them only if the mantissa is even. -/
def Binary.rounds (b : Binary) (d : Nat) (e : Int) : Bool :=
  let (low, den) := b.quarters (4 * b.mantissa - if b.isPower then 1 else 2) e
  let (high, _) := b.quarters (4 * b.mantissa + 2) e
  let point := 4 * d * den
  if b.mantissa % 2 = 0 then low ≤ point && point ≤ high else low < point && point < high

/-- How far `d * 10 ^ e` is from the number, in a unit that only depends on `e`. -/
def Binary.distance (b : Binary) (d : Nat) (e : Int) : Nat :=
  let (num, den) := b.quarters b.mantissa e
  if d * den ≤ num then num - d * den else d * den - num

/-- Whether `d * 10 ^ e` is preferred to the next point of the grid: it is nearer, or as near and
even. -/
def Binary.prefers (b : Binary) (d : Nat) (e : Int) : Bool :=
  let below := b.distance d e
  let above := b.distance (d + 1) e
  below < above || (below = above && d % 2 = 0)

/-- The decimal with the exponent `e` that rounds to the number, the preferred one of two. -/
def Binary.onGrid? (b : Binary) (e : Int) : Option Scaled :=
  let (num, den) := b.quarters b.mantissa e
  let below := num / den
  match b.rounds below e && below ≠ 0, b.rounds (below + 1) e with
  | false, false => none
  | true, false => some ⟨below, e⟩
  | false, true => some ⟨below + 1, e⟩
  | true, true =>
    some (if b.prefers below e then ⟨below, e⟩ else ⟨below + 1, e⟩)

/-- Tries the grids from an exponent downwards. -/
def Binary.search (b : Binary) : Nat → Int → Scaled
  | 0, e => ⟨0, e⟩
  | n + 1, e => (b.onGrid? e).getD (b.search n (e - 1))

/-- Takes zeros off the end of the digits. -/
def Scaled.strip : Nat → Scaled → Scaled
  | 0, s => s
  | n + 1, s =>
    if s.digits ≠ 0 && s.digits % 10 = 0 then strip n ⟨s.digits / 10, s.exponent + 1⟩ else s

/-- The shortest decimal of a positive number. Every number of double precision is below
`10 ^ 309` and is at least `10 ^ (-324)`. -/
def Binary.shortest (b : Binary) : Scaled :=
  (b.search 700 309).strip 20

/-! ### The text of a number -/

/-- The text of a positive decimal: positional from `0.00001` up to sixteen places before the point,
always with a digit after it, and otherwise with an exponent, which has a sign. -/
def Scaled.chars (s : Scaled) : List Char :=
  let ds := Text.decimal s.digits
  let point : Int := ds.length + s.exponent
  if 0 ≤ s.exponent && point ≤ 16 then
    ds ++ List.replicate s.exponent.toNat '0' ++ ['.', '0']
  else if 0 < point && point ≤ 16 then
    ds.take point.toNat ++ ['.'] ++ ds.drop point.toNat
  else if -5 < point && point ≤ 0 then
    ['0', '.'] ++ List.replicate (-point).toNat '0' ++ ds
  else
    let exponent := point - 1
    ds.take 1 ++ (if ds.length = 1 then [] else '.' :: ds.drop 1) ++ ['e'] ++
      [if exponent < 0 then '-' else '+'] ++ Text.decimal exponent.natAbs

/-- The text of a finite number of double precision. -/
def floatText (x : Float) : String :=
  let bits := x.toBits
  let sign := if bits >>> 63 = 1 then "-" else ""
  let magnitude := bits &&& 0x7fffffffffffffff
  if magnitude = 0 then sign ++ "0.0"
  else sign ++ String.ofList (Binary.ofBits magnitude).shortest.chars

end NetReconcile.Decimal
