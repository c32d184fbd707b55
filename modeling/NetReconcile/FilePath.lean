/-!
# File paths

A path is the text it was given as, and messages show that text. What it names is given by its
components: slashes in a row count as one, a component that is a single dot says nothing unless it
starts a relative path, and a slash at the end says nothing. Two paths with the same components are
the same path. Components that lead to the parent directory are kept, because what they mean depends
on the links on the way.

## Main definitions

* `FilePath.components`: what a path names.
* `FilePath.join`: the path of a file below a directory.
* `FilePath.parent?`, `FilePath.fileName?`: a path without its last component, and that component.
* `FilePath.leading`: the directories that have to exist for a path to exist.
-/

namespace NetReconcile

/-- A path, as the text it was given as. -/
structure FilePath where
  text : String
  deriving DecidableEq, Repr, Inhabited

namespace FilePath

/-- A step on the way that a path describes. -/
inductive Component
  /-- The root of the file system. -/
  | root
  /-- The directory from which a relative path starts, when the path says so. -/
  | here
  /-- The parent directory. -/
  | up
  /-- An entry of the directory reached so far. -/
  | entry (name : List Char)
  deriving DecidableEq, Repr

/-! ### Components -/

/-- The start of a path that is no entry of a directory, and the parts between slashes after it. -/
def anchorAndParts : List Char → List Char × List (List Char)
  | '/' :: cs => (['/'], cs.splitOn '/')
  | ['.'] => (['.'], [])
  | '.' :: '/' :: cs => (['.'], ('/' :: cs).splitOn '/')
  | cs => ([], cs.splitOn '/')

/-- Whether a part between slashes leads nowhere. -/
def isIdle (part : List Char) : Bool :=
  part = [] || part = ['.']

/-- The component that a part between slashes stands for. -/
def componentOf? (part : List Char) : Option Component :=
  if isIdle part then none else if part = ['.', '.'] then some .up else some (.entry part)

/-- The component that the start of a path stands for. -/
def anchorComponent : List Char → List Component
  | ['/'] => [.root]
  | ['.'] => [.here]
  | _ => []

/-- The components of a path. -/
def components (p : FilePath) : List Component :=
  let (anchor, parts) := anchorAndParts p.text.toList
  anchorComponent anchor ++ parts.filterMap componentOf?

/-- Two texts name the same path when they have the same components. -/
def same (p q : FilePath) : Bool :=
  p.components = q.components

theorem same_iff {p q : FilePath} : p.same q = true ↔ p.components = q.components := by
  simp [same]

@[simp]
theorem same_refl (p : FilePath) : p.same p = true :=
  same_iff.2 rfl

theorem same_comm (p q : FilePath) : p.same q = q.same p :=
  Bool.eq_iff_iff.2 <| same_iff.trans <| eq_comm.trans same_iff.symm

/-- Paths that name the same as one path name the same as the same paths. -/
theorem same_congr_left {p q : FilePath} (h : p.same q = true) (r : FilePath) :
    p.same r = q.same r := by
  rw [same, same, same_iff.1 h]

/-! ### Joining and taking apart -/

/-- Whether a path starts at the root. -/
def isAbsolute (p : FilePath) : Bool :=
  p.text.toList.head? = some '/'

/-- The path of a file named below a directory. A name that is an absolute path stays as it is. -/
def join (dir : FilePath) (name : String) : FilePath :=
  if (FilePath.mk name).isAbsolute then ⟨name⟩
  else if dir.text.toList.getLast?.all (· = '/') then ⟨dir.text ++ name⟩
  else ⟨dir.text ++ "/" ++ name⟩

/-- Parts without those at the end that lead nowhere. -/
def dropIdleEnd (parts : List (List Char)) : List (List Char) :=
  (parts.reverse.dropWhile isIdle).reverse

/-- A path without its last component, as a stretch of the text of the path. The root and the empty
path have no last component to leave out. -/
def parent? (p : FilePath) : Option FilePath :=
  let (anchor, parts) := anchorAndParts p.text.toList
  match dropIdleEnd parts, anchor with
  | [], ['.'] => some ⟨""⟩
  | [], _ => none
  | parts, anchor =>
    some ⟨String.ofList (anchor ++ ['/'].intercalate (dropIdleEnd parts.dropLast))⟩

/-- The name of the last component, if that is an entry of a directory. -/
def fileName? (p : FilePath) : Option String :=
  match p.components.getLast? with
  | some (.entry name) => some (String.ofList name)
  | _ => none

/-! ### Leading directories -/

/-- The starts of a text that end before a slash or at its end, shortest first. `read` is what has
been read of the text. -/
def startsFrom (read : List Char) : List Char → List (List Char)
  | [] => [read]
  | c :: cs =>
    if c = '/' then read :: startsFrom (read ++ [c]) cs else startsFrom (read ++ [c]) cs

/-- The directories that lead to a path, and the path itself, in the order in which they have to be
made. -/
def leading (p : FilePath) : List FilePath :=
  ((startsFrom [] p.text.toList).filter (!·.isEmpty)).map fun cs ↦ ⟨String.ofList cs⟩

end FilePath

end NetReconcile
