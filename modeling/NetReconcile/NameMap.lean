/-!
# Maps with ordered names

Networks are known by name, and every list that is derived from them is in the order of their names,
which is the order of their code points. `NameMap` keeps its entries sorted, so the order is part of
the type and two maps with the same entries are equal. Inserting changes what `NameMap.get?` says of
the inserted name, and of no other.
-/

namespace NetReconcile

/-- Values by name, sorted by name. -/
structure NameMap (α : Type) where
  entries : List (String × α)
  sorted : entries.Pairwise fun a b ↦ a.1 < b.1

namespace NameMap

variable {α : Type}

@[ext]
theorem ext {m n : NameMap α} (h : m.entries = n.entries) : m = n := by
  cases m; cases n; simp_all

/-- The map without entries. -/
def empty : NameMap α :=
  ⟨[], .nil⟩

instance : EmptyCollection (NameMap α) :=
  ⟨empty⟩

instance : Inhabited (NameMap α) :=
  ⟨empty⟩

/-- Puts an entry in its place in a sorted list; an entry of the same name is replaced. -/
def insertEntry (name : String) (value : α) : List (String × α) → List (String × α)
  | [] => [(name, value)]
  | (n, v) :: rest =>
    if name < n then (name, value) :: (n, v) :: rest
    else if name = n then (name, value) :: rest
    else (n, v) :: insertEntry name value rest

theorem mem_insertEntry {name : String} {value : α} {l : List (String × α)} {e : String × α}
    (h : e ∈ insertEntry name value l) : e = (name, value) ∨ e ∈ l := by
  fun_induction insertEntry name value l with
  | case1 => simpa using h
  | case2 n v rest _ => simpa using h
  | case3 v rest _ =>
    rcases List.mem_cons.1 h with h | h
    · exact .inl h
    · exact .inr (List.mem_cons_of_mem _ h)
  | case4 n v rest _ _ ih =>
    rcases List.mem_cons.1 h with h | h
    · exact .inr (h ▸ List.mem_cons_self)
    · exact (ih h).imp_right (List.mem_cons_of_mem _)

theorem pairwise_insertEntry (name : String) (value : α) {l : List (String × α)}
    (h : l.Pairwise fun a b ↦ a.1 < b.1) :
    (insertEntry name value l).Pairwise fun a b ↦ a.1 < b.1 := by
  fun_induction insertEntry name value l with
  | case1 => simp
  | case2 n v rest hlt =>
    refine List.pairwise_cons.2 ⟨fun e he ↦ ?_, h⟩
    rcases List.mem_cons.1 he with rfl | he
    · exact hlt
    · exact String.lt_trans hlt ((List.pairwise_cons.1 h).1 e he)
  | case3 v rest _ =>
    exact List.pairwise_cons.2 ⟨(List.pairwise_cons.1 h).1, (List.pairwise_cons.1 h).2⟩
  | case4 n v rest hlt hne ih =>
    refine List.pairwise_cons.2 ⟨fun e he ↦ ?_, ih (List.pairwise_cons.1 h).2⟩
    rcases mem_insertEntry he with rfl | he
    · exact String.not_le.1 fun hle ↦ hlt (Std.lt_of_le_of_ne hle hne)
    · exact (List.pairwise_cons.1 h).1 e he

/-- Sets the value of a name. -/
def insert (m : NameMap α) (name : String) (value : α) : NameMap α :=
  ⟨insertEntry name value m.entries, pairwise_insertEntry name value m.sorted⟩

/-- The map with the given entries; of two entries with one name the later counts. -/
def ofList (l : List (String × α)) : NameMap α :=
  l.foldl (fun m e ↦ m.insert e.1 e.2) empty

/-- The value of a name. -/
def get? (m : NameMap α) (name : String) : Option α :=
  (m.entries.find? (·.1 = name)).map (·.2)

theorem find?_insertEntry (name : String) (value : α) (l : List (String × α)) (n : String) :
    (insertEntry name value l).find? (·.1 = n) =
      if name = n then some (name, value) else l.find? (·.1 = n) := by
  fun_induction insertEntry name value l with
  | case1 => by_cases h : name = n <;> simp [h]
  | case2 n' v rest _ => by_cases h : name = n <;> simp [List.find?_cons, h]
  | case3 v rest _ => by_cases h : name = n <;> simp [h]
  | case4 n' v rest _ hne ih =>
    by_cases h : n' = n
    · simp [h, show name ≠ n from h ▸ hne]
    · simp [h, ih]

theorem get?_insert_self (m : NameMap α) (name : String) (value : α) :
    (m.insert name value).get? name = some value := by
  simp [get?, insert, find?_insertEntry]

theorem get?_insert_of_ne (m : NameMap α) {name n : String} (value : α) (h : n ≠ name) :
    (m.insert name value).get? n = m.get? n := by
  simp [get?, insert, find?_insertEntry, h.symm]

end NameMap

end NetReconcile
