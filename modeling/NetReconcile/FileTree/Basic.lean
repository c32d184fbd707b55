import NetReconcile.Text.Utf8

/-!
# File trees

A file tree maps locations to nodes: directories, files and links. A location is the list of the
names that lead to it from the root, the innermost first, so the directory of a location is its
tail. The root is always a directory. Relative paths start at the working directory.

What a tree is, is what `FileTree.get?` says of it: setting and erasing a location changes the
answer for that location only.

## Main definitions

* `FileTree.Node`, `FileTree.Location`.
* `FileTree.get?`, `FileTree.set`, `FileTree.erase`, with lemmas about what they change.
* `FileTree.names`, `FileTree.listing`: what is in a directory, and below it.
-/

namespace NetReconcile

namespace FileTree

/-- The names that lead from the root to an entry, the innermost first. -/
abbrev Location :=
  List String

/-- What can be at a location. -/
inductive Node
  | directory (mode : Nat)
  | file (contents : List UInt8) (isExecutable : Bool)
  | link (target : String)
  deriving DecidableEq, Repr

end FileTree

/-- The nodes of a file system by location, and the directory that relative paths start at. -/
structure FileTree where
  entries : List (FileTree.Location × FileTree.Node) := []
  workDir : FileTree.Location := []
  deriving DecidableEq, Repr

namespace FileTree

/-- The mode of directories that are made without one. -/
def defaultMode : Nat :=
  0o755

/-- The first node that a list of entries has for a location. -/
def find? (entries : List (Location × Node)) (loc : Location) : Option Node :=
  (entries.find? (·.1 = loc)).map (·.2)

/-- The node at a location. -/
def get? (t : FileTree) (loc : Location) : Option Node :=
  if loc = [] then some (.directory defaultMode) else find? t.entries loc

/-- Sets the node of a location in a list of entries. -/
def setIn (loc : Location) (node : Node) : List (Location × Node) → List (Location × Node)
  | [] => [(loc, node)]
  | e :: es => if e.1 = loc then (loc, node) :: es else e :: setIn loc node es

/-- Sets the node at a location. -/
def set (t : FileTree) (loc : Location) (node : Node) : FileTree :=
  { t with entries := setIn loc node t.entries }

/-- Removes the node at a location. -/
def erase (t : FileTree) (loc : Location) : FileTree :=
  { t with entries := t.entries.filter (·.1 ≠ loc) }

theorem find?_setIn (loc : Location) (node : Node) (es : List (Location × Node)) (l : Location) :
    find? (setIn loc node es) l = if l = loc then some node else find? es l := by
  induction es with
  | nil => by_cases h : l = loc <;> simp [find?, setIn, h, eq_comm]
  | cons e es ih =>
    unfold find? at ih ⊢
    by_cases he : e.1 = loc
    · by_cases h : l = loc
      · simp [setIn, he, h]
      · simp [setIn, he, h, Ne.symm h]
    · by_cases hl : e.1 = l
      · simp [setIn, hl, show l ≠ loc from hl ▸ he]
      · simp [setIn, he, hl, ih]

@[simp]
theorem get?_root (t : FileTree) : t.get? [] = some (.directory defaultMode) := rfl

theorem get?_set_self (t : FileTree) {loc : Location} (node : Node) (h : loc ≠ []) :
    (t.set loc node).get? loc = some node := by
  simp [get?, set, h, find?_setIn]

theorem get?_set_of_ne (t : FileTree) {loc l : Location} (node : Node) (h : l ≠ loc) :
    (t.set loc node).get? l = t.get? l := by
  simp [get?, set, find?_setIn, h]

theorem get?_erase_self (t : FileTree) {loc : Location} (h : loc ≠ []) :
    (t.erase loc).get? loc = none := by
  simp only [get?, if_neg h, find?, erase, Option.map_eq_none_iff, List.find?_eq_none]
  intro e he
  simpa using (List.mem_filter.1 he).2

theorem get?_erase_of_ne (t : FileTree) {loc l : Location} (h : l ≠ loc) :
    (t.erase loc).get? l = t.get? l := by
  unfold get?
  split
  · rfl
  · have : ∀ es : List (Location × Node),
        (es.filter (·.1 ≠ loc)).find? (·.1 = l) = es.find? (·.1 = l) := by
      intro es
      induction es with
      | nil => rfl
      | cons e es ih =>
        by_cases he : e.1 = loc
        · simp_all [Ne.symm h]
        · by_cases hl : e.1 = l <;> simp_all
    simp only [find?, erase]
    rw [this]

/-! ### Listing -/

/-- The names in a directory, in order. -/
def names (t : FileTree) (dir : Location) : List String :=
  (t.entries.filterMap fun e ↦
    match e.1 with
    | [] => none
    | name :: parent => if parent = dir then some name else none).mergeSort

/-- The names on the way from a directory to a location below it, the outermost first. -/
def below? (dir loc : Location) : Option (List String) :=
  if dir.isSuffixOf loc && loc ≠ dir then some (loc.take (loc.length - dir.length)).reverse
  else none

/-- The order of a listing: a directory comes right before what is in it. -/
def listedBefore : List String → List String → Bool
  | [], _ => true
  | _ :: _, [] => false
  | a :: as, b :: bs => a < b || (a = b && listedBefore as bs)

/-- Everything below a directory, by the names on the way to it. -/
def listing (t : FileTree) (dir : Location) : List (List String × Node) :=
  (t.entries.filterMap fun e ↦ (below? dir e.1).map (·, e.2)).mergeSort
    fun a b ↦ listedBefore a.1 b.1

end FileTree

end NetReconcile
