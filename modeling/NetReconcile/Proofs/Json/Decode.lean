import NetReconcile.Proofs.Json.String

/-!
# Reading lists and objects in JSON

The loops over lists and objects are followed item by item. Before an item, the loop either stands
at the beginning or still has to pass what stands between the item before and the comma; that is
all the state it has besides what it has read.

What an object is read into is up to its reader. If it is read into a state to which each member
adds something, the object is read into the state that all its members have added to, provided that
each of them is read as it should be in the state it is read in. Which states these are is said by
splitting the list of members at each of them.

## Main definitions

* `Quoted`: forms that start with a quote.
* `ReadsMembers`: each member of an object adds what it should to what has been read.

## Main statements

* `readsForm_nullable`, `readsForm_list`: optional values and lists are read from each of their
  forms.
* `reads_object`, `reads_record`: objects are read member by member.
* `decode_eq_ok`: a text that holds a value and nothing else is read as that value.
-/

namespace NetReconcile.Json

variable {α β : Type} {r : Reader α} {F : α → List Char → Prop} {a : α} {b : UInt8}
  {bs left : List UInt8} {cs ds sp pre : List Char} {l : List α}

/-! ### Scalars -/

/-- Every form starts with a quote. -/
def Quoted (F : α → List Char → Prop) : Prop :=
  ∀ ⦃a cs⦄, F a cs → ∃ ds, cs = '"' :: ds

theorem quoted_stringForm : Quoted StringForm := by
  rintro s _ ⟨h⟩
  exact ⟨_, rfl⟩

/-- A value that may be missing is read from each of its forms, if none of the others starts like
`null`. -/
theorem readsForm_nullable (hr : ReadsForm r F) (hquoted : Quoted F) :
    ReadsForm (nullable r) (NullableForm F) := by
  intro a cs h sp hsp left
  cases h with
  | none =>
    have hnull : utf8 ['n', 'u', 'l', 'l'] = byte 'n' :: ['u', 'l', 'l'].map byte := rfl
    rw [hnull]
    refine (reads_token hsp (by decide) _).bind ?_
    rw [if_pos rfl]
    exact (reads_skip _ _).bind ((reads_word ['u', 'l', 'l'] left).bind (reads_pure none left))
  | @some a cs h =>
    obtain ⟨ds, rfl⟩ := hquoted h
    have htoken := reads_token hsp (b := byte '"') (by decide) (utf8 ds ++ left)
    rw [← List.cons_append, ← utf8_cons_of_lt (by decide)] at htoken
    refine htoken.bind ?_
    rw [if_neg (by decide)]
    exact (hr h spaces_nil left).bind (reads_pure (some a) left)

/-- An alternative is read from each form of its name. -/
theorem reads_variant {names : List (String × α)} {known : List String} {name : String}
    (hname : (names.find? (·.1 = name)).map (·.2) = some a) (h : StringForm name cs)
    (hsp : Spaces sp) (left : List UInt8) :
    Reads (variant names known) (utf8 sp ++ (utf8 cs ++ left)) a left := by
  obtain ⟨h⟩ := h
  obtain ⟨e, hfind, rfl⟩ := Option.map_eq_some_iff.1 hname
  rw [utf8_bracket_append (by decide) (by decide)]
  refine (reads_valueToken hsp (by decide) _).bind ?_
  rw [if_pos rfl]
  refine (reads_skip _ _).bind ((reads_string h left).bind ?_)
  rw [hfind]
  exact reads_pure e.2 left

/-! ### Lists -/

/-- What stands before an item of a list or an object after the items before it have been read,
without the spaces right before it. -/
inductive Separator : Bool → List Char → Prop
  | first : Separator true []
  | later {sp : List Char} (h : Spaces sp) : Separator false (sp ++ [','])

/-- Before an item the loop passes what separates it from the one before, and spaces. -/
theorem reads_toElement {first : Bool} (hpre : Separator first pre) (hsp : Spaces sp)
    (ds : List Char) (left : List UInt8) :
    Reads (toElement first) (utf8 pre ++ (utf8 sp ++ (utf8 ('"' :: ds) ++ left))) true
      (utf8 ('"' :: ds) ++ left) := by
  rw [utf8_cons_of_lt (by decide), List.cons_append]
  cases hpre with
  | first => exact (reads_token hsp (by decide) _).bind (reads_pure true _)
  | later h =>
    rw [utf8_append, List.append_assoc]
    refine (reads_token h (by decide) _).bind ?_
    exact (reads_skip _ _).bind ((reads_token hsp (by decide) _).bind (reads_pure true _))

/-- Before the closing bracket it passes spaces, and stops. -/
theorem reads_toElement_end (first : Bool) (hsp : Spaces sp) (left : List UInt8) :
    Reads (toElement first) (utf8 sp ++ byte ']' :: left) false (byte ']' :: left) :=
  (reads_token hsp (by decide) left).bind (reads_pure false _)

theorem utf8_item_append (before cs after rest : List Char) (left : List UInt8) :
    utf8 (before ++ (cs ++ (after ++ ',' :: rest))) ++ left =
      utf8 before ++ (utf8 cs ++ (utf8 (after ++ [',']) ++ (utf8 rest ++ left))) := by
  simp [utf8_cons]

theorem reads_closeList (left : List UInt8) : Reads closeList (byte ']' :: left) () left :=
  (reads_token spaces_nil (by decide) left).bind (reads_skip _ left)

/-- One round of the loop over a list reads one item, and goes on with it added. -/
theorem reads_elements_succ {first : Bool} {fuel : Nat} {read : List α} (hr : ReadsForm r F)
    (hquoted : Quoted F) (hpre : Separator first pre) (hsp : Spaces sp) (ha : F a cs)
    (h : Reads (elements r fuel false (read ++ [a])) bs l left) :
    Reads (elements r (fuel + 1) first read) (utf8 pre ++ (utf8 sp ++ (utf8 cs ++ bs))) l
      left := by
  obtain ⟨ds, rfl⟩ := hquoted ha
  exact (reads_toElement hpre hsp ds bs).bind ((hr ha spaces_nil bs).bind h)

theorem reads_elements_end (first : Bool) (fuel : Nat) (read : List α) (hsp : Spaces sp)
    (left : List UInt8) :
    Reads (elements r (fuel + 1) first read) (utf8 sp ++ byte ']' :: left) read
      (byte ']' :: left) :=
  (reads_toElement_end first hsp left).bind (reads_pure read _)

/-- All items are read, in order, and the closing bracket is left. -/
theorem reads_elements (hr : ReadsForm r F) (hquoted : Quoted F) (h : SequenceForm F l cs)
    {first : Bool} (hpre : Separator first pre) {fuel : Nat} (hfuel : l.length < fuel)
    (read : List α) (left : List UInt8) :
    Reads (elements r fuel first read) (utf8 pre ++ (utf8 cs ++ byte ']' :: left)) (read ++ l)
      (byte ']' :: left) := by
  induction h generalizing first pre fuel read with
  | @single a before cs after hbefore ha hafter =>
    -- one round for the item, and one that finds the bracket
    obtain ⟨fuel, rfl⟩ : ∃ k, fuel = k + 2 := Nat.exists_eq_add_of_le' hfuel
    rw [utf8_append, utf8_append, List.append_assoc, List.append_assoc]
    exact reads_elements_succ hr hquoted hpre hbefore ha
      (reads_elements_end false fuel _ hafter left)
  | @cons a l before cs after rest hbefore ha hafter hl ih =>
    obtain ⟨fuel, rfl⟩ := Nat.exists_eq_add_one.2 (Nat.zero_lt_of_lt hfuel)
    have hrest := ih (.later hafter) (Nat.lt_of_succ_lt_succ hfuel) (read ++ [a])
    rw [← List.append_cons] at hrest
    rw [utf8_item_append]
    exact reads_elements_succ hr hquoted hpre hbefore ha hrest

/-- There is at least one comma between two items. -/
theorem SequenceForm.length_le (h : SequenceForm F l cs) : l.length ≤ cs.length + 1 := by
  induction h with
  | single => simp
  | cons _ _ _ _ ih =>
    simp only [List.length_append, List.length_cons]
    omega

/-- Between the brackets there are items or nothing but spaces. -/
theorem BracketForm.exists_inside {opening closing : Char}
    (h : BracketForm opening closing F l cs) :
    ∃ ds, cs = opening :: (ds ++ [closing]) ∧ (l = [] ∧ Spaces ds ∨ SequenceForm F l ds) := by
  cases h with
  | empty h => exact ⟨_, rfl, .inl ⟨rfl, h⟩⟩
  | items h => exact ⟨_, rfl, .inr h⟩

/-- The loop over a text has more rounds than there can be items. -/
theorem length_add_one_lt {c : Cursor} (hc : c.rest = utf8 ds ++ b :: left) :
    ds.length + 1 < c.rest.length + 1 := by
  have hlength := length_le_length_utf8 ds
  rw [hc, List.length_append, List.length_cons]
  omega

/-- A list is read from each of its forms. -/
theorem readsForm_list (hr : ReadsForm r F) (hquoted : Quoted F) :
    ReadsForm (list r) (ListForm F) := by
  intro l cs h sp hsp left
  obtain ⟨ds, rfl, hds⟩ := h.exists_inside
  have helements {fuel : Nat} (hfuel : ds.length + 1 < fuel) :
      Reads (elements r fuel true []) (utf8 ds ++ byte ']' :: left) l (byte ']' :: left) := by
    rcases hds with ⟨rfl, hds⟩ | hds
    · obtain ⟨fuel, rfl⟩ := Nat.exists_eq_add_one.2 (Nat.zero_lt_of_lt hfuel)
      exact reads_elements_end true fuel [] hds left
    · have hlength := hds.length_le
      exact reads_elements hr hquoted hds .first (by omega) [] left
  rw [utf8_bracket_append (by decide) (by decide)]
  refine (reads_valueToken hsp (by decide) _).bind ?_
  rw [if_pos rfl]
  refine (reads_skip _ _).bind (Reads.get_bind fun c hc ↦ ?_)
  exact (helements (length_add_one_lt hc)).bind ((reads_closeList left).bind (reads_pure l left))

/-! ### Objects -/

theorem reads_colon (hsp : Spaces sp) (bs : List UInt8) :
    Reads colon (utf8 sp ++ byte ':' :: bs) () bs :=
  (reads_token hsp (by decide) bs).bind (reads_skip _ bs)

theorem reads_toKey {first : Bool} (hpre : Separator first pre) (hsp : Spaces sp)
    (bs : List UInt8) :
    Reads (toKey first) (utf8 pre ++ (utf8 sp ++ byte '"' :: bs)) true (byte '"' :: bs) := by
  cases hpre with
  | first => exact (reads_token hsp (by decide) _).bind (reads_pure true _)
  | later h =>
    rw [utf8_append, List.append_assoc]
    refine (reads_token h (by decide) _).bind ?_
    exact (reads_skip _ _).bind ((reads_token hsp (by decide) _).bind (reads_pure true _))

theorem reads_toKey_end (first : Bool) (hsp : Spaces sp) (left : List UInt8) :
    Reads (toKey first) (utf8 sp ++ byte '\x7d' :: left) false (byte '\x7d' :: left) :=
  (reads_token hsp (by decide) left).bind (reads_pure false _)

theorem reads_closeObject (left : List UInt8) :
    Reads closeObject (byte '\x7d' :: left) () left :=
  (reads_token spaces_nil (by decide) left).bind (reads_skip _ left)

section

variable {member : String → β → Reader β} {m : String × α} {all done : List (String × α)}
  {x y : β} {state : List (String × α) → β}

/-- A member takes one state to another in each of its forms. -/
def ReadsMember (member : String → β → Reader β) (F : α → List Char → Prop) (m : String × α)
    (x y : β) : Prop :=
  ∀ ⦃before after cs⦄, Spaces before → Spaces after → F m.2 cs → ∀ left,
    Reads (member m.1 x) (utf8 before ++ byte ':' :: (utf8 after ++ (utf8 cs ++ left))) y left

/-- Each member of an object takes the state that the members before it lead to to the next one. -/
def ReadsMembers (member : String → β → Reader β) (F : α → List Char → Prop)
    (state : List (String × α) → β) (all : List (String × α)) : Prop :=
  ∀ done m rest, all = done ++ m :: rest →
    ReadsMember member F m (state done) (state (done ++ [m]))

/-- One round of the loop over an object reads one member into the state. -/
theorem reads_members_succ {first : Bool} {fuel : Nat} (hm : ReadsMember member F m x y)
    (hpre : Separator first pre) (hsp : Spaces sp) (hform : MemberForm F m cs) {z : β}
    (h : Reads (members member fuel false y) bs z left) :
    Reads (members member (fuel + 1) first x) (utf8 pre ++ (utf8 sp ++ (utf8 cs ++ bs))) z
      left := by
  obtain ⟨⟨hkey⟩, hbefore, hafter, hvalue⟩ := hform
  rw [utf8_append, List.append_assoc, utf8_bracket_append (by decide) (by decide), utf8_append,
    utf8_cons_of_lt (by decide), utf8_append, List.append_assoc, List.cons_append,
    List.append_assoc]
  refine (reads_toKey hpre hsp _).bind ((reads_skip _ _).bind ?_)
  exact (reads_string hkey _).bind ((hm hbefore hafter hvalue bs).bind h)

theorem reads_members_end (first : Bool) (fuel : Nat) (x : β) (hsp : Spaces sp)
    (left : List UInt8) :
    Reads (members member (fuel + 1) first x) (utf8 sp ++ byte '\x7d' :: left) x
      (byte '\x7d' :: left) :=
  (reads_toKey_end first hsp left).bind (reads_pure x _)

/-- All members are read, each into the state that those before it have left. -/
theorem reads_members {l : List (String × α)}
    (hmember : ReadsMembers member F state all)
    (h : SequenceForm (MemberForm F) l cs) (hall : all = done ++ l)
    {first : Bool} (hpre : Separator first pre) {fuel : Nat} (hfuel : l.length < fuel)
    (left : List UInt8) :
    Reads (members member fuel first (state done)) (utf8 pre ++ (utf8 cs ++ byte '\x7d' :: left))
      (state all) (byte '\x7d' :: left) := by
  induction h generalizing first pre fuel done with
  | @single m before cs after hbefore hm hafter =>
    obtain ⟨fuel, rfl⟩ : ∃ k, fuel = k + 2 := Nat.exists_eq_add_of_le' hfuel
    rw [utf8_append, utf8_append, List.append_assoc, List.append_assoc]
    refine reads_members_succ (hmember done m [] hall) hpre hbefore hm ?_
    rw [← hall]
    exact reads_members_end false fuel _ hafter left
  | @cons m l before cs after rest hbefore hm hafter hl ih =>
    obtain ⟨fuel, rfl⟩ := Nat.exists_eq_add_one.2 (Nat.zero_lt_of_lt hfuel)
    rw [utf8_item_append]
    refine reads_members_succ (hmember done m l hall) hpre hbefore hm ?_
    exact ih (hall.trans (List.append_cons done m l)) (.later hafter)
      (Nat.lt_of_succ_lt_succ hfuel)

/-- An object is read into the state that all its members take it to. -/
theorem reads_objectBody
    (hmember : ReadsMembers member F state all)
    (h : ObjectForm F all cs) (left : List UInt8) : ∃ bs, utf8 cs ++ left = byte '\x7b' :: bs ∧
      Reads (objectBody member (state [])) bs (state all) left := by
  obtain ⟨ds, rfl, hds⟩ := h.exists_inside
  refine ⟨_, utf8_bracket_append (by decide) (by decide) ds left, Reads.get_bind fun c hc ↦ ?_⟩
  have hfuel := length_add_one_lt hc
  refine Reads.bind ?_ ((reads_closeObject left).bind (reads_pure (state all) left))
  rcases hds with ⟨rfl, hds⟩ | hds
  · exact reads_members_end true _ (state []) hds left
  · have hlength := hds.length_le
    exact reads_members hmember hds (List.nil_append all).symm .first (by omega) left

/-- An object is read into the state that all its members have added to. -/
theorem reads_object (state : List (String × α) → β)
    (hmember : ReadsMembers member F state all)
    (h : ObjectForm F all cs) (hsp : Spaces sp) (left : List UInt8) :
    Reads (object member (state [])) (utf8 sp ++ (utf8 cs ++ left)) (state all) left := by
  obtain ⟨bs, hbs, hbody⟩ := reads_objectBody hmember h left
  rw [hbs]
  refine (reads_valueToken hsp (by decide) bs).bind ?_
  rw [if_pos rfl]
  exact (reads_skip _ bs).bind hbody

/-- A record that is given as an object is read as one. -/
theorem reads_record {expected : String} {fields : Reader β} (state : List (String × α) → β)
    (hmember : ReadsMembers member F state all)
    (h : ObjectForm F all cs) (hsp : Spaces sp) (left : List UInt8) :
    Reads (record expected member (state []) fields) (utf8 sp ++ (utf8 cs ++ left)) (state all)
      left := by
  obtain ⟨bs, hbs, hbody⟩ := reads_objectBody hmember h left
  rw [hbs]
  refine (reads_valueToken hsp (by decide) bs).bind ?_
  rw [if_pos rfl]
  exact (reads_skip _ bs).bind hbody

end

/-- A field that has no value yet gets the one that is written. -/
theorem reads_once {name : String} {value : Option α} (hvalue : value = none) (hsp : Spaces sp)
    (h : Reads r bs a left) :
    Reads (once name value r) (utf8 sp ++ byte ':' :: bs) (some a) left := by
  subst hvalue
  exact (reads_colon hsp bs).bind (h.bind (reads_pure (some a) left))

/-! ### Texts -/

/-- A text that holds a value and nothing else is read as that value, from any source. -/
theorem decode_eq_ok (hsp : Spaces sp) (h : Reads r bs a (utf8 sp)) (source : Source) :
    decode r source bs = .ok a := by
  have hwhole : Reads (whole r) bs a [] :=
    h.bind ((reads_token_end hsp).bind (reads_pure a []))
  obtain ⟨c, hok, -⟩ := hwhole ⟨source, {}, bs⟩ rfl
  rw [decode, hok]

end NetReconcile.Json
