import Mathlib.Data.List.Forall2
import Mathlib.Tactic.ByContra

/-!
# The ways to write a value in JSON

A value can be written in JSON in many ways: a character of a string stands for itself or is
escaped, the members of an object have no order, and there may be spaces between the parts. A form
is a relation between values and texts. The forms of strings, lists and objects are given here; a
form of a list or of an object is built from the forms of what it contains.

## Main definitions

* `CharForm`, `StringForm`: characters with their escapes, and strings.
* `NullableForm`, `ListForm`, `ObjectForm`: values made of other values.

## Main statements

* `exists_stringForm`: every text can be written.
* `exists_listForm`, `exists_objectForm`: so can lists and objects whose parts can be written.

Forms only say how values may be written, and nothing of how they are read. That each of them is
read back is shown elsewhere, for one alternative at a time; the statements of existence here show
that this is said of every value.
-/

namespace NetReconcile.Json

/-- Characters that may stand between the parts of a JSON text. -/
def Spaces (cs : List Char) : Prop :=
  ∀ c ∈ cs, c ∈ [' ', '\n', '\t', '\r']

theorem spaces_nil : Spaces [] := by
  simp [Spaces]

/-! ### Strings -/

/-- A hexadecimal digit of either case, with its value. -/
def HexForm (d : Nat) (c : Char) : Prop :=
  d < 16 ∧ (c = d.digitChar ∨ c = d.digitChar.toUpper)

/-- The four hexadecimal digits of a code unit. -/
def UnitForm (n : Nat) (cs : List Char) : Prop :=
  List.Forall₂ HexForm [n / 0x1000, n / 0x100 % 0x10, n / 0x10 % 0x10, n % 0x10] cs

/-- The letters that may follow a backslash, with the characters that they stand for. -/
def escapeLetters : List (Char × Char) :=
  [('"', '"'), ('\\', '\\'), ('/', '/'), ('b', '\x08'), ('f', '\x0c'), ('n', '\n'), ('r', '\r'),
    ('t', '\t')]

/-- The ways to write a character of a string. -/
inductive CharForm : Char → List Char → Prop
  | plain {c : Char} (hcontrol : ' ' ≤ c) (hquote : c ≠ '"') (hbackslash : c ≠ '\\') :
      CharForm c [c]
  | letter {c l : Char} (h : (l, c) ∈ escapeLetters) : CharForm c ['\\', l]
  | unit {c : Char} {digits : List Char} (h : UnitForm c.toNat digits) :
      CharForm c ('\\' :: 'u' :: digits)
  /-- A character that takes two code units. -/
  | pair {c : Char} {high low : List Char} (hc : 0x10000 ≤ c.toNat)
      (hhigh : UnitForm (0xD800 + (c.toNat - 0x10000) / 0x400) high)
      (hlow : UnitForm (0xDC00 + (c.toNat - 0x10000) % 0x400) low) :
      CharForm c ('\\' :: 'u' :: (high ++ '\\' :: 'u' :: low))

/-- The ways to write the characters of a string. -/
inductive CharsForm : List Char → List Char → Prop
  | nil : CharsForm [] []
  | cons {c : Char} {cs ds es : List Char} (hc : CharForm c ds) (hcs : CharsForm cs es) :
      CharsForm (c :: cs) (ds ++ es)

/-- The ways to write a string. -/
inductive StringForm (s : String) : List Char → Prop
  | intro {body : List Char} (h : CharsForm s.toList body) : StringForm s ('"' :: (body ++ ['"']))

/-- A string that needs no escapes can be written without any. -/
theorem stringForm_plain {s : String}
    (h : (s.toList.all fun c ↦ ' ' ≤ c && c ≠ '"' && c ≠ '\\') = true) :
    StringForm s ('"' :: (s.toList ++ ['"'])) := by
  refine .intro ?_
  generalize s.toList = cs at h
  induction cs with
  | nil => exact .nil
  | cons c cs ih =>
    simp only [List.all_cons, Bool.and_eq_true, decide_eq_true_eq] at h
    obtain ⟨⟨⟨hcontrol, hquote⟩, hbackslash⟩, hcs⟩ := h
    exact .cons (.plain hcontrol hquote hbackslash) (ih hcs)

/-! ### Lists and objects -/

section

variable {α : Type}

/-- The ways to write a value that may be null. -/
inductive NullableForm (F : α → List Char → Prop) : Option α → List Char → Prop
  | none : NullableForm F none ['n', 'u', 'l', 'l']
  | some {a : α} {cs : List Char} (h : F a cs) : NullableForm F (some a) cs

/-- The ways to write one or more items with commas between them. -/
inductive SequenceForm (F : α → List Char → Prop) : List α → List Char → Prop
  | single {a : α} {before cs after : List Char} (hbefore : Spaces before) (ha : F a cs)
      (hafter : Spaces after) : SequenceForm F [a] (before ++ (cs ++ after))
  | cons {a : α} {l : List α} {before cs after rest : List Char} (hbefore : Spaces before)
      (ha : F a cs) (hafter : Spaces after) (hl : SequenceForm F l rest) :
      SequenceForm F (a :: l) (before ++ (cs ++ (after ++ ',' :: rest)))

/-- The ways to write items with commas between them and brackets around them. -/
inductive BracketForm (opening closing : Char) (F : α → List Char → Prop) :
    List α → List Char → Prop
  | empty {between : List Char} (h : Spaces between) :
      BracketForm opening closing F [] (opening :: (between ++ [closing]))
  | items {l : List α} {cs : List Char} (h : SequenceForm F l cs) :
      BracketForm opening closing F l (opening :: (cs ++ [closing]))

/-- The ways to write a list. -/
def ListForm (F : α → List Char → Prop) : List α → List Char → Prop :=
  BracketForm '[' ']' F

/-- The ways to write a member of an object, which is a key with a value. -/
inductive MemberForm (F : α → List Char → Prop) (m : String × α) : List Char → Prop
  | intro {key before after cs : List Char} (hkey : StringForm m.1 key) (hbefore : Spaces before)
      (hafter : Spaces after) (hvalue : F m.2 cs) :
      MemberForm F m (key ++ (before ++ ':' :: (after ++ cs)))

/-- The ways to write an object. The members stand in the given order. -/
def ObjectForm (F : α → List Char → Prop) : List (String × α) → List Char → Prop :=
  BracketForm '\x7b' '\x7d' (MemberForm F)

end

/-! ### Everything can be written -/

/-- Every number of 16 bits can be written in four digits. -/
theorem exists_unitForm {n : Nat} (hn : n < 0x10000) : ∃ cs, UnitForm n cs := by
  have hdigit (d : Nat) (hd : d < 16) : HexForm d d.digitChar := ⟨hd, .inl rfl⟩
  exact ⟨_, .cons (hdigit _ (by omega)) (.cons (hdigit _ (by omega))
    (.cons (hdigit _ (by omega)) (.cons (hdigit _ (by omega)) .nil)))⟩

/-- Every character can be written, also one that cannot stand for itself. -/
theorem exists_charForm (c : Char) : ∃ cs, CharForm c cs := by
  by_cases hplain : ' ' ≤ c ∧ c ≠ '"' ∧ c ≠ '\\'
  · exact ⟨[c], .plain hplain.1 hplain.2.1 hplain.2.2⟩
  · have hc : c.toNat < 0x10000 := by
      by_contra hlarge
      refine hplain ⟨?_, ?_, ?_⟩
      · rw [Char.le_def, UInt32.le_iff_toNat_le]
        exact Nat.le_trans (by decide) (Nat.not_lt.1 hlarge)
      · rintro rfl
        exact hlarge (by decide)
      · rintro rfl
        exact hlarge (by decide)
    obtain ⟨digits, hdigits⟩ := exists_unitForm hc
    exact ⟨_, .unit hdigits⟩

/-- Every text can be written. -/
theorem exists_stringForm (s : String) : ∃ cs, StringForm s cs := by
  suffices ∀ cs : List Char, ∃ body, CharsForm cs body by
    obtain ⟨body, hbody⟩ := this s.toList
    exact ⟨_, .intro hbody⟩
  intro cs
  induction cs with
  | nil => exact ⟨[], .nil⟩
  | cons c cs ih =>
    obtain ⟨ds, hds⟩ := exists_charForm c
    obtain ⟨es, hes⟩ := ih
    exact ⟨_, .cons hds hes⟩

section

variable {α : Type} {F : α → List Char → Prop}

/-- A value that may be missing can be written if it can be when it is there. -/
theorem exists_nullableForm (hF : ∀ a, ∃ cs, F a cs) (a : Option α) :
    ∃ cs, NullableForm F a cs := by
  cases a with
  | none => exact ⟨_, .none⟩
  | some a =>
    obtain ⟨cs, hcs⟩ := hF a
    exact ⟨cs, .some hcs⟩

/-- A sequence can be written if each of its items can. -/
theorem exists_bracketForm (opening closing : Char) {l : List α} (hF : ∀ a ∈ l, ∃ cs, F a cs) :
    ∃ cs, BracketForm opening closing F l cs := by
  rcases l.eq_nil_or_concat with rfl | ⟨l, a, rfl⟩
  · exact ⟨_, .empty spaces_nil⟩
  rw [List.concat_eq_append] at hF ⊢
  suffices ∃ cs, SequenceForm F (l ++ [a]) cs by
    obtain ⟨cs, hcs⟩ := this
    exact ⟨_, .items hcs⟩
  induction l with
  | nil =>
    obtain ⟨cs, hcs⟩ := hF a (by simp)
    exact ⟨_, .single spaces_nil hcs spaces_nil⟩
  | cons b l ih =>
    obtain ⟨cs, hcs⟩ := hF b (by simp)
    obtain ⟨rest, hrest⟩ := ih fun a' ha' ↦ hF a' (List.mem_cons_of_mem b ha')
    exact ⟨_, .cons spaces_nil hcs spaces_nil hrest⟩

theorem exists_listForm (hF : ∀ a, ∃ cs, F a cs) (l : List α) : ∃ cs, ListForm F l cs :=
  exists_bracketForm _ _ fun a _ ↦ hF a

theorem exists_objectForm {l : List (String × α)} (hF : ∀ m ∈ l, ∃ cs, F m.2 cs) :
    ∃ cs, ObjectForm F l cs := by
  refine exists_bracketForm _ _ fun m hm ↦ ?_
  obtain ⟨key, hkey⟩ := exists_stringForm m.1
  obtain ⟨cs, hcs⟩ := hF m hm
  exact ⟨_, .intro hkey spaces_nil spaces_nil hcs⟩

end

end NetReconcile.Json
