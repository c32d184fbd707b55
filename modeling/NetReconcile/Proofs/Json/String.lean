import NetReconcile.Proofs.Json.Reads

/-!
# Reading strings in JSON

A string is read in rounds: each passes the bytes that stand for themselves and then an escape. For
the forms of strings it is easier to follow the bytes one after the other, so the first thing to
show of rounds is that a plain byte can be taken out of one.

## Main statements

* `CharForm.plain_or_escape`: a form of a character is the character itself, or an escape that is
  read as the character.
* `reads_stringBytes`: the characters of a string are read from each of their forms.
* `readsForm_stringValue`: so is a string.
-/

namespace NetReconcile.Json

variable {b : UInt8} {bs mid left : List UInt8} {c : Char} {cs ds : List Char}

/-! ### Escapes -/

/-- A digit is one byte, in either case, and is read as its number. -/
theorem HexForm.utf8EncodeChar {d : Nat} (h : HexForm d c) :
    String.utf8EncodeChar c = [byte c] ∧ hexByte? (byte c) = some d := by
  have hlower : ∀ d : Fin 16, String.utf8EncodeChar d.val.digitChar = [byte d.val.digitChar] ∧
      hexByte? (byte d.val.digitChar) = some d.val := by
    decide
  have hupper : ∀ d : Fin 16,
      String.utf8EncodeChar d.val.digitChar.toUpper = [byte d.val.digitChar.toUpper] ∧
        hexByte? (byte d.val.digitChar.toUpper) = some d.val := by
    decide
  obtain ⟨hd, rfl | rfl⟩ := h
  · exact hlower ⟨d, hd⟩
  · exact hupper ⟨d, hd⟩

/-- Four digits are read as their number. -/
theorem reads_hexEscape {n : Nat} (h : UnitForm n ds) (left : List UInt8) :
    Reads hexEscape (utf8 ds ++ left) n left := by
  obtain ⟨d₁, _, h₁, hds₁, rfl⟩ := List.forall₂_cons_left_iff.1 h
  obtain ⟨d₂, _, h₂, hds₂, rfl⟩ := List.forall₂_cons_left_iff.1 hds₁
  obtain ⟨d₃, _, h₃, hds₃, rfl⟩ := List.forall₂_cons_left_iff.1 hds₂
  obtain ⟨d₄, _, h₄, hds₄, rfl⟩ := List.forall₂_cons_left_iff.1 hds₃
  obtain rfl := List.forall₂_nil_left_iff.1 hds₄
  -- the reader takes four bytes, which are four digits because each digit is one byte
  have hbytes : utf8 [d₁, d₂, d₃, d₄] = [byte d₁, byte d₂, byte d₃, byte d₄] := by
    simp [utf8_cons, h₁.utf8EncodeChar.1, h₂.utf8EncodeChar.1, h₃.utf8EncodeChar.1,
      h₄.utf8EncodeChar.1]
  have hvalue : hexValue? (utf8 [d₁, d₂, d₃, d₄]) = some n := by
    rw [hbytes]
    simp only [hexValue?, h₁.utf8EncodeChar.2, h₂.utf8EncodeChar.2, h₃.utf8EncodeChar.2,
      h₄.utf8EncodeChar.2, Option.bind_eq_bind, Option.bind_some, Option.pure_def]
    congr 1
    omega
  refine Reads.get_bind fun c hc ↦ ?_
  have htake : c.rest.take 4 = utf8 [d₁, d₂, d₃, d₄] := by
    rw [hc, hbytes]
    rfl
  rw [htake]
  have hpass : Reads (modify (Cursor.advanceBy 4)) (utf8 [d₁, d₂, d₃, d₄] ++ left) () left :=
    reads_modify fun c hc ↦ by rw [rest_advanceBy, hc, hbytes]; rfl
  refine hpass.bind ?_
  rw [if_neg (by simp [hbytes]), hvalue]
  exact reads_pure n left

/-- The bytes of the code point of a character are those of the character. -/
theorem codePointBytes_toNat (c : Char) : codePointBytes c.toNat = String.utf8EncodeChar c := by
  rw [codePointBytes, Char.ofNat_toNat]

/-- The code point of a character is not one of those that are kept for pairs. -/
theorem toNat_lt_or_le (c : Char) :
    c.toNat < 0xD800 ∨ (0xE000 ≤ c.toNat ∧ c.toNat < 0x110000) :=
  c.valid.imp_right fun h ↦ h

theorem reads_pairByte (c : Char) (bs : List UInt8) :
    Reads (pairByte c) (byte c :: bs) () bs := by
  refine (reads_peek (byte c :: bs)).bind ((reads_skip (byte c) bs).bind ?_)
  rw [if_neg (by simp)]
  exact reads_pure () bs

/-- A character that fits in four digits is read from them. -/
theorem reads_unicodeEscape_unit (h : UnitForm c.toNat ds) (left : List UInt8) :
    Reads unicodeEscape (utf8 ds ++ left) (String.utf8EncodeChar c) left := by
  have hc := toNat_lt_or_le c
  refine (reads_hexEscape h left).bind ?_
  rw [if_neg (by simp; omega), if_pos (by simp; omega), codePointBytes_toNat]
  exact reads_pure _ left

/-- One that does not is read from two escapes, of which neither stands for a character. -/
theorem reads_unicodeEscape_pair {high low : List Char} (hc : 0x10000 ≤ c.toNat)
    (hhigh : UnitForm (0xD800 + (c.toNat - 0x10000) / 0x400) high)
    (hlow : UnitForm (0xDC00 + (c.toNat - 0x10000) % 0x400) low) (left : List UInt8) :
    Reads unicodeEscape (utf8 (high ++ '\\' :: 'u' :: low) ++ left) (String.utf8EncodeChar c)
      left := by
  have hmax := toNat_lt_or_le c
  rw [utf8_append, utf8_cons_of_lt (by decide), utf8_cons_of_lt (by decide), List.append_assoc]
  refine (reads_hexEscape hhigh _).bind ?_
  rw [if_neg (by simp; omega), if_neg (by simp; omega)]
  refine (reads_pairByte '\\' _).bind ((reads_pairByte 'u' _).bind ?_)
  refine (reads_hexEscape hlow left).bind ?_
  have hpair : 0x10000 + (0xD800 + (c.toNat - 0x10000) / 0x400 - 0xD800) * 0x400 +
      (0xDC00 + (c.toNat - 0x10000) % 0x400 - 0xDC00) = c.toNat := by
    omega
  rw [if_neg (by simp; omega), hpair, codePointBytes_toNat]
  exact reads_pure _ left

/-- Escapes by a letter are read as the character that the letter stands for. -/
theorem reads_escape_letter {l : Char} (h : (l, c) ∈ escapeLetters) (left : List UInt8) :
    Reads escape (byte l :: left) (String.utf8EncodeChar c) left := by
  have hall : ∀ e ∈ escapeLetters, byte e.1 ≠ byte 'u' ∧
      (letterEscape? (byte e.1)).map ([·]) = some (String.utf8EncodeChar e.2) := by
    decide
  obtain ⟨hu, hletter⟩ := hall _ h
  obtain ⟨e, hletter, he⟩ := Option.map_eq_some_iff.1 hletter
  refine (reads_next (byte l) left).bind ?_
  show Reads (if byte l = byte 'u' then _ else _) _ _ _
  rw [if_neg hu, hletter, ← he]
  exact reads_pure [e] left

theorem reads_escape_unicode (h : Reads unicodeEscape bs mid left) :
    Reads escape (byte 'u' :: bs) mid left :=
  (reads_next (byte 'u') bs).bind h

/-! ### Strings -/

/-- A round passes the bytes that stand for themselves, then looks at the byte that ends them. -/
theorem stringBytes_succ (fuel : Nat) (read : List UInt8) (c : Cursor) :
    stringBytes (fuel + 1) read c = (do
      match ← next with
      | none => failHere .eofString
      | some b =>
        if b = byte '"' then return read ++ c.rest.takeWhile isPlain
        else if b = byte '\\' then
          let bytes ← escape
          stringBytes fuel (read ++ c.rest.takeWhile isPlain ++ bytes)
        else failHere .controlCharacter : Reader (List UInt8)) (c.advanceWhile isPlain) :=
  rfl

/-- A plain byte is passed as if it had been read before. -/
theorem stringBytes_plain {fuel : Nat} {read : List UInt8} {c : Cursor} (hb : isPlain b = true)
    (hc : c.rest = b :: bs) :
    stringBytes (fuel + 1) read c = stringBytes (fuel + 1) (read ++ [b]) c.advance := by
  obtain ⟨source, here, rest⟩ := c
  obtain rfl : rest = b :: bs := hc
  have hwhile : Cursor.advanceWhile isPlain ⟨source, here, b :: bs⟩ =
      Cursor.advanceWhile isPlain ⟨source, here.after b, bs⟩ := by
    simp only [Cursor.advanceWhile, Cursor.passWhile, if_pos hb]
  rw [stringBytes_succ, stringBytes_succ, hwhile, List.takeWhile_cons_of_pos hb, List.append_cons]
  rfl

theorem isPlain_iff : isPlain b = true ↔ b.toNat ≠ 34 ∧ b.toNat ≠ 92 ∧ 32 ≤ b.toNat := by
  simp [isPlain, byte, ← UInt8.toNat_inj, UInt8.le_iff_toNat_le, and_assoc]

/-- A character that needs no escape is written in plain bytes. -/
theorem isPlain_of_mem_utf8EncodeChar (hcontrol : ' ' ≤ c) (hquote : c ≠ '"')
    (hbackslash : c ≠ '\\') : ∀ b ∈ String.utf8EncodeChar c, isPlain b = true := by
  have hcontrol' : 32 ≤ c.val.toNat := hcontrol
  have hquote' : c.val.toNat ≠ 34 := fun h ↦ hquote (Char.toNat_inj.1 h)
  have hbackslash' : c.val.toNat ≠ 92 := fun h ↦ hbackslash (Char.toNat_inj.1 h)
  unfold String.utf8EncodeChar
  generalize c.val.toNat = n at *
  dsimp only
  -- all but the shortest encoding consist of bytes that are no ASCII characters
  split_ifs
  all_goals
    simp only [isPlain_iff, List.forall_mem_cons, List.not_mem_nil, false_implies, forall_const,
      UInt8.toNat_ofNat', and_true]
    omega

/-- Plain bytes are passed one by one. -/
theorem reads_stringBytes_plain {fuel : Nat} {read plain s : List UInt8}
    (hplain : ∀ b ∈ plain, isPlain b = true)
    (h : Reads (stringBytes (fuel + 1) (read ++ plain)) bs s left) :
    Reads (stringBytes (fuel + 1) read) (plain ++ bs) s left := by
  induction plain generalizing read with
  | nil => rwa [List.append_nil] at h
  | cons b plain ih =>
    rw [List.append_cons] at h
    intro c hc
    rw [stringBytes_plain (hplain b List.mem_cons_self) hc]
    refine ih (fun b' hb' ↦ hplain b' (List.mem_cons_of_mem b hb')) h c.advance ?_
    rw [Cursor.advance, hc]
    rfl

/-- A byte that does not stand for itself ends a round. -/
theorem reads_stringBytes_succ {fuel : Nat} {read s : List UInt8} (hb : isPlain b = false)
    (h : Reads (if b = byte '"' then return read
      else if b = byte '\\' then do
        let bytes ← escape
        stringBytes fuel (read ++ bytes)
      else failHere .controlCharacter) bs s left) :
    Reads (stringBytes (fuel + 1) read) (b :: bs) s left := by
  intro c hc
  have hrest : (c.advanceWhile isPlain).rest = b :: bs := by
    rw [rest_advanceWhile, hc, List.dropWhile_cons_of_neg (by simp [hb])]
  rw [stringBytes_succ, hc, List.takeWhile_cons_of_neg (by simp [hb]), List.append_nil]
  exact ((reads_next b bs).bind h) _ hrest

/-- A form of a character is the character itself or an escape. -/
theorem CharForm.plain_or_escape (h : CharForm c ds) :
    (ds = [c] ∧ ∀ b ∈ String.utf8EncodeChar c, isPlain b = true) ∨
      ∃ es, ds = '\\' :: es ∧
        ∀ left, Reads escape (utf8 es ++ left) (String.utf8EncodeChar c) left := by
  cases h with
  | plain hcontrol hquote hbackslash =>
    exact .inl ⟨rfl, isPlain_of_mem_utf8EncodeChar hcontrol hquote hbackslash⟩
  | @letter l h =>
    refine .inr ⟨[l], rfl, fun left ↦ ?_⟩
    have hl : ∀ e ∈ escapeLetters, e.1.toNat < 128 := by decide
    rw [utf8_cons_of_lt (hl _ h)]
    exact reads_escape_letter h left
  | unit h =>
    refine .inr ⟨_, rfl, fun left ↦ ?_⟩
    rw [utf8_cons_of_lt (by decide)]
    exact reads_escape_unicode (reads_unicodeEscape_unit h left)
  | pair hc hhigh hlow =>
    refine .inr ⟨_, rfl, fun left ↦ ?_⟩
    rw [utf8_cons_of_lt (by decide)]
    exact reads_escape_unicode (reads_unicodeEscape_pair hc hhigh hlow left)

/-- The characters of a string are read from each of their forms. -/
theorem reads_stringBytes (h : CharsForm cs ds) {fuel : Nat} (hfuel : cs.length < fuel)
    (read left : List UInt8) :
    Reads (stringBytes fuel read) (utf8 ds ++ byte '"' :: left) (read ++ utf8 cs) left := by
  induction h generalizing fuel read with
  | nil =>
    obtain ⟨fuel, rfl⟩ := Nat.exists_eq_add_one.2 hfuel
    refine reads_stringBytes_succ (by decide) ?_
    rw [if_pos rfl, utf8_nil, List.append_nil]
    exact reads_pure read left
  | @cons c cs ds es hc hcs ih =>
    obtain ⟨fuel, rfl⟩ := Nat.exists_eq_add_one.2 (Nat.zero_lt_of_lt hfuel)
    rw [List.length_cons] at hfuel
    rw [utf8_append, List.append_assoc, utf8_cons c cs, ← List.append_assoc read]
    rcases hc.plain_or_escape with ⟨rfl, hplain⟩ | ⟨ds, rfl, hescape⟩
    · rw [utf8_cons, utf8_nil, List.append_nil]
      exact reads_stringBytes_plain hplain (ih (by omega) _)
    · rw [utf8_cons_of_lt (by decide)]
      refine reads_stringBytes_succ (by decide) ?_
      rw [if_neg (by decide), if_pos rfl]
      exact (hescape _).bind (ih (by omega) _)

/-- A form has at least one character for each that it stands for, so its length is fuel enough. -/
theorem CharsForm.length_le (h : CharsForm cs ds) : cs.length ≤ ds.length := by
  induction h with
  | nil => exact Nat.le_refl 0
  | @cons c cs ds es hc hcs ih =>
    have hpos : 0 < ds.length := by
      cases hc <;> simp
    rw [List.length_append, List.length_cons]
    omega

theorem reads_string {s : String} (h : CharsForm s.toList ds) (left : List UInt8) :
    Reads string (utf8 ds ++ byte '"' :: left) s left := by
  refine Reads.get_bind fun c hc ↦ ?_
  have hfuel : s.toList.length < c.rest.length + 1 := by
    have hds := h.length_le
    have hbytes := length_le_length_utf8 ds
    rw [hc, List.length_append]
    omega
  refine (reads_stringBytes h hfuel [] left).bind ?_
  have hs : Text.ofBytes? (utf8 s.toList) = some s := by
    rw [utf8, ← Text.toBytes_eq, Text.ofBytes?_toBytes]
  rw [List.nil_append, hs]
  exact reads_pure s left

/-- A string is read from each of its forms. -/
theorem readsForm_stringValue (expected : String) :
    ReadsForm (stringValue expected) StringForm := by
  rintro s _ ⟨h⟩ sp hsp left
  rw [utf8_bracket_append (by decide) (by decide)]
  refine (reads_valueToken hsp (by decide) _).bind ?_
  rw [if_pos rfl]
  exact (reads_skip _ _).bind (reads_string h left)

end NetReconcile.Json
