import NetReconcile.Json.Scalar

/-!
# Passing over JSON values

A value that nothing needs is passed over, to any depth: the lists and objects that are open are
kept in a list of their own, the innermost first. A comma is passed together with the key that an
object needs after it, so between two rounds the reader always stands before a value.
-/

namespace NetReconcile.Json

/-- A list or an object that has been opened. -/
inductive Frame
  | list
  | object
  deriving DecidableEq, Repr

namespace Frame

/-- The byte that closes a frame. -/
def closer : Frame → UInt8
  | list => byte ']'
  | object => byte '\x7d'

/-- The fault of a text that ends inside a frame. -/
def eof : Frame → Fault
  | list => .eofList
  | object => .eofObject

/-- The fault of something else than a comma or the end after a value. -/
def expectedCommaOrEnd : Frame → Fault
  | list => .expectedListCommaOrEnd
  | object => .expectedObjectCommaOrEnd

end Frame

/-- Passes the colon after a key. -/
def colon : Reader Unit := do
  match ← token with
  | none => failAhead .eofObject
  | some b => if b = byte ':' then skip else failAhead .expectedColon

/-- Passes over the key that the innermost frame needs before a value. -/
def skipKey : Frame → Reader Unit
  | .list => pure ()
  | .object => do
    match ← token with
    | none => failAhead .eofObject
    | some b => if b = byte '"' then skip else failAhead .keyNotString
    skipString
    colon

/-- Passes what stands between a value and the next one. The answer is the frames that are still
open; none are if there is no next value. -/
def afterValue : List Frame → Reader (List Frame)
  | [] => return []
  | f :: fs => do
    match ← token with
    | none => failAhead f.eof
    | some b =>
      if b = byte ',' then
        skip
        skipKey f
        return f :: fs
      else if b = f.closer then
        skip
        afterValue fs
      else failAhead f.expectedCommaOrEnd

/-- Passes what stands between the opening of a frame and its first value. -/
def afterOpening (f : Frame) (fs : List Frame) : Reader (List Frame) := do
  match ← token with
  | none => failAhead f.eof
  | some b =>
    if b = f.closer then
      skip
      afterValue fs
    else
      skipKey f
      return f :: fs

/-- Passes over a value that is neither list nor object. -/
def skipScalar (b : UInt8) : Reader Unit := do
  if b = byte 'n' then
    skip
    word ['u', 'l', 'l']
  else if b = byte 't' then
    skip
    word ['r', 'u', 'e']
  else if b = byte 'f' then
    skip
    word ['a', 'l', 's', 'e']
  else if b = byte '-' then
    skip
    skipNumber
  else if isDigit b then skipNumber
  else if b = byte '"' then
    skip
    skipString
  else failAhead .expectedValue

/-- Passes over a value and whatever follows it in the frames around it. -/
def skipIn : Nat → List Frame → Reader Unit
  | 0, _ => failAhead .eofValue
  | fuel + 1, frames => do
    let open? ← do
      match ← token with
      | none => failAhead .eofValue
      | some b =>
        if b = byte '[' then
          skip
          afterOpening .list frames
        else if b = byte '\x7b' then
          skip
          afterOpening .object frames
        else
          skipScalar b
          afterValue frames
    if open?.isEmpty then return else skipIn fuel open?

/-- Passes over one value. Each round passes at least one byte. -/
def skipValue : Reader Unit := do
  skipIn ((← get).rest.length + 1) []

end NetReconcile.Json
