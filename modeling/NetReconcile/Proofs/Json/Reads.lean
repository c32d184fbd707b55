import Mathlib.Data.List.TakeWhile
import NetReconcile.Json.Decode
import NetReconcile.Proofs.HostM
import NetReconcile.Proofs.Json.Form
import NetReconcile.Proofs.Text.Bytes

/-!
# Following a reader

What a reader answers does not depend on where in a text it stands, and neither on the source of the
bytes. So a reader is described by the bytes that it is given, what it answers, and the bytes that
it leaves. A sequence of readers is followed from the first one on.

## Main definitions

* `Reads`: a reader answers, and leaves the rest.
* `ReadsForm`: a reader finds a value in each of its forms.

## Main statements

* `Reads.bind`: readers one after the other.
* `reads_token`: spaces are passed up to the next part of a text.

A reader carries a cursor with the line and the column that it has come to, for the text of its
errors, and a source. `Reads` quantifies over both. So the lemmas are only about bytes, and the
same ones serve settings that are given as a text and settings that are in a file.
-/

namespace NetReconcile.Json

variable {α β : Type} {r : Reader α} {f : α → Reader β} {a : α} {x : β} {b : UInt8}
  {bs mid left : List UInt8} {c : Char} {sp : List Char}

/-! ### The bytes of characters -/

/-- The UTF-8 bytes of characters. -/
def utf8 (cs : List Char) : List UInt8 :=
  cs.flatMap String.utf8EncodeChar

@[simp]
theorem utf8_nil : utf8 [] = [] :=
  rfl

theorem utf8_cons (c : Char) (cs : List Char) :
    utf8 (c :: cs) = String.utf8EncodeChar c ++ utf8 cs :=
  List.flatMap_cons

@[simp]
theorem utf8_append (cs ds : List Char) : utf8 (cs ++ ds) = utf8 cs ++ utf8 ds :=
  List.flatMap_append

/-- A character below 128 is one byte. -/
theorem utf8EncodeChar_of_lt (hc : c.toNat < 128) : String.utf8EncodeChar c = [byte c] := by
  have hc' : c.val.toNat ≤ 0x7f := Nat.le_of_lt_succ hc
  rw [String.utf8EncodeChar, if_pos hc']
  rfl

/-- An ASCII character is one byte. -/
theorem utf8_cons_of_lt (hc : c.toNat < 128) (cs : List Char) :
    utf8 (c :: cs) = byte c :: utf8 cs := by
  rw [utf8_cons, utf8EncodeChar_of_lt hc, List.singleton_append]

/-- The brackets of a text are single bytes, before and after the bytes of what they enclose. -/
theorem utf8_bracket_append {opening closing : Char} (hopening : opening.toNat < 128)
    (hclosing : closing.toNat < 128) (cs : List Char) (left : List UInt8) :
    utf8 (opening :: (cs ++ [closing])) ++ left =
      byte opening :: (utf8 cs ++ byte closing :: left) := by
  rw [utf8_cons_of_lt hopening, utf8_append, utf8_cons_of_lt hclosing, utf8_nil, List.cons_append,
    List.append_assoc, List.singleton_append]

/-- A text has no more characters than bytes, so the number of bytes is fuel enough. -/
theorem length_le_length_utf8 (cs : List Char) : cs.length ≤ (utf8 cs).length := by
  induction cs with
  | nil => exact Nat.le_refl 0
  | cons c cs ih =>
    have hc := List.length_pos_iff.2 (String.utf8EncodeChar_ne_nil (c := c))
    rw [utf8_cons, List.length_append, List.length_cons]
    omega

/-! ### Readers -/

/-- Given these bytes, a reader answers with a value and leaves the rest. -/
def Reads (r : Reader α) (bs : List UInt8) (a : α) (left : List UInt8) : Prop :=
  ∀ c : Cursor, c.rest = bs → ∃ c' : Cursor, r c = .ok a c' ∧ c'.rest = left

/-- A reader finds a value in each of its forms, also after spaces. -/
def ReadsForm (r : Reader α) (F : α → List Char → Prop) : Prop :=
  ∀ ⦃a cs⦄, F a cs → ∀ ⦃sp⦄, Spaces sp → ∀ left, Reads r (utf8 sp ++ (utf8 cs ++ left)) a left

theorem reads_pure (a : α) (bs : List UInt8) : Reads (pure a) bs a bs :=
  fun c hc ↦ ⟨c, rfl, hc⟩

theorem reads_pure_of_eq {a' : α} (h : a' = a) (bs : List UInt8) : Reads (pure a') bs a bs :=
  h ▸ reads_pure a' bs

/-- The second reader is given what the first one has left. -/
theorem Reads.bind (hr : Reads r bs a mid) (hf : Reads (f a) mid x left) :
    Reads (r >>= f) bs x left := by
  intro c hc
  obtain ⟨c', hok, hc'⟩ := hr c hc
  rw [bind_of_ok hok]
  exact hf c' hc'

/-- A reader may look at the cursor. -/
theorem Reads.get_bind {f : Cursor → Reader β} (hf : ∀ c, c.rest = bs → Reads (f c) bs x left) :
    Reads (get >>= f) bs x left :=
  fun c hc ↦ hf c hc c hc

/-- Moving a cursor answers nothing, and leaves what it is moved to. -/
theorem reads_modify {g : Cursor → Cursor} (hg : ∀ c, c.rest = bs → (g c).rest = left) :
    Reads (modify g) bs () left :=
  fun c hc ↦ ⟨g c, rfl, hg c hc⟩

theorem reads_peek (bs : List UInt8) : Reads peek bs bs.head? bs :=
  fun c hc ↦ ⟨c, by rw [← hc]; rfl, hc⟩

theorem reads_skip (b : UInt8) (bs : List UInt8) : Reads skip (b :: bs) () bs :=
  reads_modify fun c hc ↦ by rw [Cursor.advance, hc]

theorem reads_next (b : UInt8) (bs : List UInt8) : Reads next (b :: bs) (some b) bs :=
  (reads_peek (b :: bs)).bind ((reads_skip b bs).bind (reads_pure (some b) bs))

/-- A word is read if it is all there, and nothing is taken of what comes after it. -/
theorem reads_word (cs : List Char) (left : List UInt8) :
    Reads (word cs) (cs.map byte ++ left) () left := by
  induction cs with
  | nil => exact reads_pure () left
  | cons c cs ih =>
    refine (reads_next (byte c) (cs.map byte ++ left)).bind ?_
    show Reads (if byte c = byte c then word cs else _) _ _ _
    rw [if_pos rfl]
    exact ih

/-! ### Spaces -/

/-- Going on while something holds leaves what `dropWhile` leaves. -/
theorem rest_advanceWhile (p : UInt8 → Bool) (c : Cursor) :
    (c.advanceWhile p).rest = c.rest.dropWhile p := by
  have hpass (here : Position) (bs : List UInt8) :
      (Cursor.passWhile p here bs).2 = bs.dropWhile p := by
    fun_induction Cursor.passWhile p here bs with
    | case1 => rfl
    | case2 here b bs hb ih => rw [ih, List.dropWhile_cons_of_pos hb]
    | case3 here b bs hb => rw [List.dropWhile_cons_of_neg hb]
  exact hpass c.here c.rest

theorem rest_advanceBy (n : Nat) (c : Cursor) : (c.advanceBy n).rest = c.rest.drop n := by
  have hadvance (c : Cursor) : c.advance.rest = c.rest.drop 1 := by
    obtain ⟨source, here, rest⟩ := c
    cases rest <;> rfl
  induction n with
  | zero => rfl
  | succ n ih =>
    show (c.advanceBy n).advance.rest = _
    rw [hadvance, ih, List.drop_drop]

/-- The bytes of spaces are spaces. -/
theorem isSpace_of_mem_utf8 (hsp : Spaces sp) (hb : b ∈ utf8 sp) : isSpace b = true := by
  obtain ⟨c, hc, hb⟩ := List.mem_flatMap.1 hb
  have hall : ([' ', '\n', '\t', '\r'].all fun c ↦
      (String.utf8EncodeChar c).all isSpace) = true := by
    decide
  exact List.all_eq_true.1 (List.all_eq_true.1 hall c (hsp c hc)) b hb

/-- Spaces are passed up to the next part of a text. -/
theorem reads_token (hsp : Spaces sp) (hb : isSpace b = false) (bs : List UInt8) :
    Reads token (utf8 sp ++ b :: bs) (some b) (b :: bs) := by
  refine (reads_modify fun c hc ↦ ?_).bind (reads_peek (b :: bs))
  rw [rest_advanceWhile, hc, List.dropWhile_append_of_pos fun _ ↦ isSpace_of_mem_utf8 hsp,
    List.dropWhile_cons_of_neg (by simp [hb])]

/-- At the end of a text spaces lead to nothing. -/
theorem reads_token_end (hsp : Spaces sp) : Reads token (utf8 sp) none [] := by
  refine (reads_modify fun c hc ↦ ?_).bind (reads_peek [])
  rw [rest_advanceWhile, hc, List.dropWhile_eq_nil_iff]
  exact fun _ ↦ isSpace_of_mem_utf8 hsp

theorem reads_valueToken (hsp : Spaces sp) (hb : isSpace b = false) (bs : List UInt8) :
    Reads valueToken (utf8 sp ++ b :: bs) b (b :: bs) :=
  (reads_token hsp hb bs).bind (reads_pure b (b :: bs))

end NetReconcile.Json
