import NetReconcile.FilePath

/-!
# Values by path

Values are found by what a path names, not by how it is spelled, and keep the order in which their
paths were first given a value.

What a map is, is what `PathMap.get?` says of it. `PathMap.get?_set` and `PathMap.get?_erase` say
that setting or erasing a path changes the answer for that path, in all its spellings, and for no
other.
-/

namespace NetReconcile

/-- Values by path, in the order in which the paths were first given a value. -/
abbrev PathMap (α : Type) :=
  List (FilePath × α)

namespace PathMap

variable {α : Type}

/-- The value of a path. -/
def get? (m : PathMap α) (p : FilePath) : Option α :=
  (m.find? (·.1.same p)).map (·.2)

/-- Gives a value to a path. A path that has one keeps its spelling. -/
def set (m : PathMap α) (p : FilePath) (value : α) : PathMap α :=
  match m with
  | [] => [(p, value)]
  | (q, v) :: rest => if q.same p then (q, value) :: rest else (q, v) :: set rest p value

/-- Takes its value from a path. -/
def erase (m : PathMap α) (p : FilePath) : PathMap α :=
  m.filter (!·.1.same p)

/-- Whether a path has a value. -/
def contains (m : PathMap α) (p : FilePath) : Bool :=
  (m.get? p).isSome

/-! ### What changes change -/

@[simp]
theorem get?_nil (p : FilePath) : get? ([] : PathMap α) p = none :=
  rfl

theorem get?_cons (e : FilePath × α) (m : PathMap α) (p : FilePath) :
    get? (e :: m) p = if e.1.same p then some e.2 else get? m p := by
  unfold get?
  rw [List.find?_cons]
  cases h : e.1.same p <;> rfl

/-- A value is found by any spelling of its path. -/
theorem get?_congr (m : PathMap α) {p q : FilePath} (h : p.same q = true) :
    m.get? p = m.get? q := by
  have hpq : (fun e : FilePath × α ↦ e.1.same p) = fun e ↦ e.1.same q :=
    funext fun e ↦ by rw [FilePath.same_comm, FilePath.same_congr_left h, FilePath.same_comm]
  rw [get?, get?, hpq]

theorem get?_set (m : PathMap α) (p q : FilePath) (value : α) :
    (m.set p value).get? q = if p.same q then some value else m.get? q := by
  induction m with
  | nil => rw [set, get?_cons, get?_nil]
  | cons e m ih =>
    obtain ⟨r, v⟩ := e
    rw [set]
    split
    · rename_i h
      simp only [get?_cons, FilePath.same_congr_left h]
      split <;> rfl
    · rename_i h
      simp only [get?_cons, ih]
      by_cases hr : r.same q = true
      · have hp : p.same q = false := by
          refine Bool.eq_false_iff.2 fun hp ↦ h ?_
          rw [FilePath.same_congr_left hr, FilePath.same_comm, hp]
        simp [hr, hp]
      · simp [hr]

theorem get?_set_self (m : PathMap α) (p : FilePath) (value : α) :
    (m.set p value).get? p = some value := by
  simp [get?_set]

theorem get?_set_of_not_same (m : PathMap α) {p q : FilePath} (value : α) (h : p.same q = false) :
    (m.set p value).get? q = m.get? q := by
  simp [get?_set, h]

/-- Giving a path the value that it has changes nothing, not even how the path is spelled. -/
theorem set_eq_self {m : PathMap α} {p : FilePath} {value : α} (h : m.get? p = some value) :
    m.set p value = m := by
  induction m with
  | nil => simp at h
  | cons e m ih =>
    obtain ⟨q, v⟩ := e
    rw [get?_cons] at h
    rw [set]
    split at h
    · rename_i hq
      obtain rfl := Option.some.inj h
      rw [if_pos hq]
    · rename_i hq
      rw [if_neg hq, ih h]

theorem get?_erase (m : PathMap α) (p q : FilePath) :
    (m.erase p).get? q = if p.same q then none else m.get? q := by
  induction m with
  | nil => simp [erase]
  | cons e m ih =>
    have hc : erase (e :: m) p = if e.1.same p then erase m p else e :: erase m p := by
      cases h : e.1.same p <;> simp [erase, h]
    rw [hc]
    split
    · rename_i h
      rw [ih, get?_cons, FilePath.same_congr_left h]
      split <;> rfl
    · rename_i h
      rw [get?_cons, get?_cons, ih]
      by_cases he : e.1.same q = true
      · have hp : p.same q = false := by
          refine Bool.eq_false_iff.2 fun hp ↦ h ?_
          rw [FilePath.same_congr_left he, FilePath.same_comm, hp]
        simp [he, hp]
      · simp [he]

end PathMap

end NetReconcile
