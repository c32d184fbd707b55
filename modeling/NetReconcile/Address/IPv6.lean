import NetReconcile.Address.IPv4

/-!
# IPv6 addresses

An address is eight groups of 16 bits. Its written form has the groups in hexadecimal, without
leading zeros and in lower case, with a colon between them; the first of the longest runs of zero
groups is written as two colons, if it has at least two groups. An address that carries an IPv4
address in the way reserved for it, after `ffff`, ends in the written form of that address.

More forms are read than are written: letters of either case, up to three leading zeros, a run of
zero groups at any place, also of one group, and an IPv4 address for the last two groups of any
address. An address names at most one run, and the run stands for at least one group.
-/

namespace NetReconcile

/-- An IPv6 address as its eight groups, the most significant first. -/
structure IPv6 where
  groups : List (BitVec 16)
  length_groups : groups.length = 8
  deriving DecidableEq

namespace IPv6

/-- The address with the given groups, if they are eight. -/
def ofGroups? (gs : List (BitVec 16)) : Option IPv6 :=
  if h : gs.length = 8 then some ⟨gs, h⟩ else none

/-! ### Writing -/

/-- The groups of a stretch of an address, with a colon between them. -/
def groupChars (gs : List (BitVec 16)) : List Char :=
  [':'].intercalate (gs.map fun g ↦ Nat.toDigits 16 g.toNat)

/-- How many zero groups a list starts with. -/
def zeroRun (gs : List (BitVec 16)) : Nat :=
  (gs.takeWhile (· = 0)).length

/-- Where the first of the longest runs of zero groups starts, and how many groups it has. -/
def longestZeroRun : List (BitVec 16) → Nat × Nat
  | [] => (0, 0)
  | g :: gs =>
    let (start, size) := longestZeroRun gs
    if 0 < zeroRun (g :: gs) && size ≤ zeroRun (g :: gs) then (0, zeroRun (g :: gs))
    else (start + 1, size)

/-- The IPv4 address that an address carries after five zero groups and `ffff`. -/
def mapped? (x : IPv6) : Option IPv4 :=
  match x.groups with
  | [a, b, c, d, e, f, high, low] =>
    if [a, b, c, d, e] = [0, 0, 0, 0, 0] && f = 0xffff then some ⟨high ++ low⟩ else none
  | _ => none

/-- The written form. -/
def chars (x : IPv6) : List Char :=
  match x.mapped? with
  | some v4 => "::ffff:".toList ++ v4.chars
  | none =>
    let (start, size) := longestZeroRun x.groups
    if 2 ≤ size then
      groupChars (x.groups.take start) ++ [':', ':'] ++ groupChars (x.groups.drop (start + size))
    else groupChars x.groups

/-! ### Reading -/

/-- Reads a group: one to four hexadecimal digits. -/
def group? (cs : List Char) : Option (BitVec 16) :=
  if cs.length ≤ 4 then (Text.digits? 16 cs).map (BitVec.ofNat 16) else none

/-- The two groups that an IPv4 address takes. -/
def groupsOfIPv4 (x : IPv4) : List (BitVec 16) :=
  [x.bits.extractLsb' 16 16, x.bits.extractLsb' 0 16]

/-- Reads the parts between colons, of which the last may be an IPv4 address. -/
def groupsOfParts? : List (List Char) → Option (List (BitVec 16))
  | [] => some []
  | [last] => ((group? last).map ([·])).or ((IPv4.ofChars? last).map groupsOfIPv4)
  | p :: ps => do return (← group? p) :: (← groupsOfParts? ps)

/-- Reads the groups of a stretch of an address; an empty stretch has none. -/
def groups? (cs : List Char) : Option (List (BitVec 16)) :=
  if cs.isEmpty then some [] else groupsOfParts? (cs.splitOn ':')

/-- Splits a text at its first two colons in a row. -/
def splitAtRun : List Char → Option (List Char × List Char)
  | ':' :: ':' :: cs => some ([], cs)
  | c :: cs => (splitAtRun cs).map fun (before, after) ↦ (c :: before, after)
  | [] => none

/-- Whether a stretch may stand before a run of zero groups: an IPv4 address may not. -/
def hasDot (cs : List Char) : Bool :=
  cs.any (· = '.')

/-- Reads an address. -/
def ofChars? (cs : List Char) : Option IPv6 :=
  match splitAtRun cs with
  | none => (groups? cs).bind ofGroups?
  | some (before, after) => do
    if hasDot before then none
    let head ← groups? before
    let tail ← groups? after
    if head.length + tail.length < 8 then
      ofGroups? (head ++ List.replicate (8 - (head.length + tail.length)) 0 ++ tail)
    else none

end IPv6

end NetReconcile
