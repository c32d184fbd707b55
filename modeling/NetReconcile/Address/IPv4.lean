import NetReconcile.Text.Digits

/-!
# IPv4 addresses

An address is a word of 32 bits, and so is a netmask. The written form is four decimal numbers, one
for each octet, without leading zeros: each address has one written form, and nothing else is read.

## Main definitions

* `IPv4.chars`, `IPv4.ofChars?`: the written form and its reader.
* `IPv4.isContiguousMask`: the masks of a subnet, ones followed by zeros.
* `IPv4.broadcast`: the last address of the subnet that a mask cuts out around an address.
-/

namespace NetReconcile

/-- An IPv4 address, or a netmask. -/
structure IPv4 where
  bits : BitVec 32
  deriving DecidableEq, Repr, Inhabited

namespace IPv4

/-- The address with the given octets, the most significant first. -/
def ofOctets (a b c d : BitVec 8) : IPv4 :=
  ⟨a ++ b ++ c ++ d⟩

/-- The octets of an address, the most significant first. -/
def octets (x : IPv4) : List (BitVec 8) :=
  [x.bits.extractLsb' 24 8, x.bits.extractLsb' 16 8, x.bits.extractLsb' 8 8,
    x.bits.extractLsb' 0 8]

/-! ### The written form -/

/-- The written form: the octets in base ten, with a dot between them. -/
def chars (x : IPv4) : List Char :=
  ['.'].intercalate (x.octets.map fun o ↦ Text.decimal o.toNat)

/-- The written form as a text. -/
def text (x : IPv4) : String :=
  String.ofList x.chars

/-- Reads an octet: one to three digits, a leading zero only in `0` itself, at most 255. -/
def octet? (cs : List Char) : Option (BitVec 8) :=
  match cs with
  | '0' :: _ :: _ => none
  | cs =>
    if cs.length ≤ 3 then
      ((Text.digits? 10 cs).filter (· < 256)).map (BitVec.ofNat 8)
    else none

/-- Reads an address from exactly its written form. -/
def ofChars? (cs : List Char) : Option IPv4 :=
  match cs.splitOn '.' with
  | [a, b, c, d] => do
    return ofOctets (← octet? a) (← octet? b) (← octet? c) (← octet? d)
  | _ => none

/-- Reads an address from a text that is exactly its written form. -/
def ofText? (s : String) : Option IPv4 :=
  ofChars? s.toList

/-! ### Subnets -/

/-- The bits of an address, the most significant first. -/
def bitList (x : IPv4) : List Bool :=
  (List.range 32).map x.bits.getMsbD

/-- How many ones an address starts with. -/
def leadingOnes (x : IPv4) : Nat :=
  (x.bitList.takeWhile id).length

/-- How many zeros an address ends with. -/
def trailingZeros (x : IPv4) : Nat :=
  (x.bitList.reverse.takeWhile (!·)).length

/-- Whether a word is ones followed by zeros, which is what the mask of a subnet is. Either part
may be missing. -/
def isContiguousMask (mask : IPv4) : Bool :=
  mask.leadingOnes + mask.trailingZeros = 32

/-- The last address of the subnet of `address`: every bit outside the mask is set. -/
def broadcast (address mask : IPv4) : IPv4 :=
  ⟨address.bits ||| ~~~mask.bits⟩

end IPv4

end NetReconcile
