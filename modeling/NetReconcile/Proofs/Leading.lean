import Mathlib.Data.List.Infix
import NetReconcile.Proofs.FilePath

/-!
# The starts of a path

The directories that lead to a path are read off its text: they are its starts up to a slash, and
the text itself. A slash in front starts nothing, since what is before it is empty; slashes in a row
and a slash at the end give starts that name the same directory again.

A text can also be taken apart at its slashes and put together again from its first part, its first
two parts and so on. This gives the same starts in the same order.

## Main definitions

* `FilePath.IsStart`: a path is the text of another one up to a slash, or all of it.

## Main statements

* `FilePath.mem_leading_iff`, `FilePath.pairwise_leading`: the leading directories of a path are its
  starts, from the shortest to the longest.
* `FilePath.leading_eq`: they are put together from the first parts of the path.
-/

namespace NetReconcile.FilePath

/-- A path is not empty, and is the text of another one up to a slash, or all of it. -/
def IsStart (q p : FilePath) : Prop :=
  q.text ≠ "" ∧ ∃ rest, p.text.toList = q.text.toList ++ rest ∧
    (rest = [] ∨ rest.head? = some '/')

/-! ### Starts of a text -/

/-- The starts after a part that has been read are those up to a slash, and the whole. -/
theorem mem_startsFrom_iff {read cs start : List Char} :
    start ∈ startsFrom read cs ↔ ∃ more rest, cs = more ++ rest ∧ start = read ++ more ∧
      (rest = [] ∨ rest.head? = some '/') := by
  induction cs generalizing read with
  | nil =>
    rw [startsFrom, List.mem_singleton]
    constructor
    · rintro rfl
      exact ⟨[], [], rfl, (List.append_nil _).symm, .inl rfl⟩
    · rintro ⟨more, rest, hcs, rfl, -⟩
      obtain ⟨rfl, -⟩ := List.append_eq_nil_iff.1 hcs.symm
      exact List.append_nil _
  | cons c cs ih =>
    -- a start that is longer than what was read has the next character in it
    have hlonger : start ∈ startsFrom (read ++ [c]) cs ↔ ∃ more rest, cs = more ++ rest ∧
        start = read ++ c :: more ∧ (rest = [] ∨ rest.head? = some '/') := by
      simp only [ih, List.append_assoc, List.singleton_append]
    have hends : start ∈ startsFrom read (c :: cs) ↔
        (c = '/' ∧ start = read) ∨ start ∈ startsFrom (read ++ [c]) cs := by
      rw [startsFrom]
      split
      · rename_i hc
        rw [List.mem_cons, and_iff_right hc]
      · rename_i hc
        exact (or_iff_right fun h ↦ hc h.1).symm
    rw [hends, hlonger]
    constructor
    · rintro (⟨rfl, rfl⟩ | ⟨more, rest, rfl, rfl, hrest⟩)
      · exact ⟨[], _, rfl, (List.append_nil _).symm, .inr rfl⟩
      · exact ⟨c :: more, rest, rfl, rfl, hrest⟩
    · rintro ⟨more, rest, hcs, rfl, hrest⟩
      cases more with
      | nil =>
        obtain rfl : c :: cs = rest := hcs
        exact .inl ⟨by simpa using hrest, List.append_nil _⟩
      | cons c' more =>
        obtain ⟨rfl, rfl⟩ := List.cons.inj hcs
        exact .inr ⟨more, rest, rfl, rfl, hrest⟩

/-- Each start is longer than those before it. -/
theorem pairwise_startsFrom (read cs : List Char) :
    (startsFrom read cs).Pairwise (·.length < ·.length) := by
  induction cs generalizing read with
  | nil => exact List.pairwise_singleton _ _
  | cons c cs ih =>
    rw [startsFrom]
    split
    · refine List.pairwise_cons.2 ⟨fun start hstart ↦ ?_, ih _⟩
      obtain ⟨more, rest, -, rfl, -⟩ := mem_startsFrom_iff.1 hstart
      simp only [List.length_append, List.length_singleton]
      omega
    · exact ih _

/-! ### Leading directories -/

/-- The leading directories of a path are its starts. -/
theorem mem_leading_iff {p q : FilePath} : q ∈ p.leading ↔ q.IsStart p := by
  rw [leading, List.mem_map, IsStart]
  constructor
  · rintro ⟨start, hstart, rfl⟩
    obtain ⟨hmem, hne⟩ := List.mem_filter.1 hstart
    obtain ⟨more, rest, htext, rfl, hrest⟩ := mem_startsFrom_iff.1 hmem
    exact ⟨by simpa using hne, rest, by simpa using htext, hrest⟩
  · rintro ⟨hne, rest, htext, hrest⟩
    refine ⟨q.text.toList, List.mem_filter.2 ⟨?_, by simpa using hne⟩, by simp⟩
    exact mem_startsFrom_iff.2 ⟨_, rest, htext, rfl, hrest⟩

/-- They are given from the shortest to the longest, and none of them twice. -/
theorem pairwise_leading (p : FilePath) :
    p.leading.Pairwise (·.text.toList.length < ·.text.toList.length) := by
  rw [leading, List.pairwise_map]
  simp only [String.toList_ofList]
  exact (pairwise_startsFrom _ _).filter _

/-- A slash in front starts nothing, and one at the end starts the same directory again. -/
example : leading ⟨"/a/b/"⟩ = [⟨"/a"⟩, ⟨"/a/b"⟩, ⟨"/a/b/"⟩] := by
  decide +kernel

/-! ### First parts -/

theorem startsFrom_of_notMem (read : List Char) {part : List Char} (h : '/' ∉ part) :
    startsFrom read part = [read ++ part] := by
  induction part generalizing read with
  | nil => rw [startsFrom, List.append_nil]
  | cons c part ih =>
    obtain ⟨hc, hpart⟩ := not_or.1 (List.mem_cons.not.1 h)
    rw [startsFrom, if_neg (Ne.symm hc), ih _ hpart, List.append_assoc, List.singleton_append]

/-- A slash ends one start, and is read into all others. -/
theorem startsFrom_append_slash (read : List Char) {part : List Char} (h : '/' ∉ part)
    (cs : List Char) :
    startsFrom read (part ++ '/' :: cs) =
      (read ++ part) :: startsFrom (read ++ part ++ ['/']) cs := by
  induction part generalizing read with
  | nil => rw [List.nil_append, startsFrom, if_pos rfl, List.append_nil]
  | cons c part ih =>
    obtain ⟨hc, hpart⟩ := not_or.1 (List.mem_cons.not.1 h)
    rw [List.cons_append, startsFrom, if_neg (Ne.symm hc), ih _ hpart]
    simp

/-- The starts of parts with slashes between them are its first part, its first two parts and so
on. -/
theorem startsFrom_intercalate (read : List Char) {ps : List (List Char)} (hne : ps ≠ [])
    (h : ∀ part ∈ ps, '/' ∉ part) :
    startsFrom read (['/'].intercalate ps) =
      ps.inits.tail.map fun first ↦ read ++ ['/'].intercalate first := by
  induction ps generalizing read with
  | nil => exact absurd rfl hne
  | cons part ps ih =>
    have hpart := h part List.mem_cons_self
    cases ps with
    | nil => simp [startsFrom_of_notMem read hpart]
    | cons next ps =>
      have hrest := ih (read ++ part ++ ['/']) (List.cons_ne_nil _ _)
        fun p hp ↦ h p (List.mem_cons_of_mem _ hp)
      rw [List.intercalate_cons_cons, List.append_assoc, List.singleton_append,
        startsFrom_append_slash read hpart, hrest]
      simp [List.intercalate_cons_cons]

/-- The leading directories of a path are put together from its first parts. -/
theorem leading_eq (p : FilePath) :
    p.leading = (((p.text.toList.splitOn '/').inits.tail.map (['/'].intercalate ·)).filter
      (!·.isEmpty)).map fun cs ↦ ⟨String.ofList cs⟩ := by
  have htext := startsFrom_intercalate [] (List.splitOn_ne_nil '/' p.text.toList)
    fun part ↦ slash_notMem_of_mem_splitOn
  rw [List.intercalate_splitOn] at htext
  rw [leading, htext]
  rfl

end NetReconcile.FilePath
