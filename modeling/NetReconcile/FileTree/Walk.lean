import NetReconcile.FileTree.Basic
import NetReconcile.Host

/-!
# From paths to locations

A path is walked part by part from the root or from the working directory. Every part but the last
has to lead to a directory, and so has the last if a slash follows it. A link on the way is replaced
by the path that it holds; at the end of the way it is replaced only where it is to be followed. Of
one path, at most forty links are replaced. Where the end of the way may be a file to be made, no
slash can follow its name.

Some calls are about the entry of a directory rather than about what it leads to. For them a path is
a directory together with the name of an entry in it, which need not exist.

## Main definitions

* `FileTree.Place`: where a path leads, an existing location or a name that a directory does not
  have.
* `FileTree.Goal`: what a path is walked for.
* `FileTree.locate`: walks a path.
* `FileTree.Slot`, `FileTree.slot`: the entry that a path is about.
-/

namespace NetReconcile

namespace FileTree

/-- Where a path leads. -/
inductive Place
  | existing (loc : Location)
  /-- A directory that has no entry of the name. -/
  | absent (dir : Location) (name : String)
  deriving DecidableEq, Repr

/-- What a path is walked for. -/
inductive Goal
  /-- For what it leads to, which may be a link. -/
  | entry
  /-- For what it leads to once all links are followed. -/
  | node
  /-- For a file that is made if it does not exist. -/
  | file
  deriving DecidableEq, Repr

/-- How many links are replaced on the way of one path. -/
def linkLimit : Nat :=
  40

/-- The longest name of an entry, in bytes. -/
def nameLimit : Nat :=
  255

/-- The longest path, in bytes. -/
def pathLimit : Nat :=
  4095

/-- The parts of a path between its slashes. -/
def parts (text : String) : List String :=
  (text.toList.splitOn '/').map String.ofList

/-- Where the walk of a path starts that is found in a directory. -/
def origin (dir : Location) (text : String) : Location :=
  if (FilePath.mk text).isAbsolute then [] else dir

/-- Whether a part leads nowhere. -/
def isIdle (part : String) : Bool :=
  part = "" || part = "."

/-- Whether only slashes are left of a path, and at least one of them. -/
def isSlashes (rest : List String) : Bool :=
  !rest.isEmpty && rest.all (· = "")

/-- Walks from a directory along parts of a path. `links` is how many links may still be
replaced. -/
def walk (t : FileTree) (goal : Goal) (links : Nat) (dir : Location) :
    List String → Except Errno Place
  | [] => .ok (.existing dir)
  | part :: rest =>
    if isIdle part then t.walk goal links dir rest
    else if part = ".." then t.walk goal links dir.tail rest
    else if goal = .file && isSlashes rest then .error .isDirectory
    else if nameLimit < part.utf8ByteSize then .error .nameTooLong
    else
      match t.get? (part :: dir) with
      | none => if rest = [] then .ok (.absent dir part) else .error .noEntry
      | some (.directory _) => t.walk goal links (part :: dir) rest
      | some (.file _ _) =>
        if rest = [] then .ok (.existing (part :: dir)) else .error .notDirectory
      | some (.link target) =>
        if rest = [] && goal = .entry then .ok (.existing (part :: dir))
        else
          match links with
          | 0 => .error .tooManyLinks
          | links + 1 => t.walk goal links (origin dir target) (parts target ++ rest)
termination_by part => (links, part.length)

/-- The parts of a path that a call accepts at all. -/
def checkPath (p : FilePath) : Except HostError (List String) :=
  if '\x00' ∈ p.text.toList then .error .nulInFileName
  else if p.text = "" then .error (.system .noEntry)
  else if pathLimit < p.text.utf8ByteSize then .error (.system .nameTooLong)
  else .ok (parts p.text)

/-- The outcome of a walk as that of a call. -/
def ofWalk {α : Type} : Except Errno α → Except HostError α
  | .ok a => .ok a
  | .error e => .error (.system e)

/-- Walks a path. -/
def locate (t : FileTree) (goal : Goal) (p : FilePath) : Except HostError Place := do
  let ps ← checkPath p
  ofWalk (t.walk goal linkLimit (origin t.workDir p.text) ps)

/-! ### Entries -/

/-- What a path is about, for calls that make or remove entries. -/
inductive Slot
  /-- An entry of a directory; `slash` tells whether a slash follows the name. -/
  | entry (dir : Location) (name : String) (slash : Bool)
  /-- A directory that the path names by no entry: the root, itself or its parent. -/
  | special
  deriving DecidableEq, Repr

/-- Splits the last part that is not empty off the parts of a path, which are given in reverse. -/
def splitLast : List String → Bool → Option (List String × String × Bool)
  | [], _ => none
  | part :: before, slash =>
    if part = "" then splitLast before true else some (before.reverse, part, slash)

/-- Walks all parts, which have to lead to a directory. -/
def walkDirectory (t : FileTree) (dir : Location) (ps : List String) : Except Errno Location := do
  match ← t.walk .node linkLimit dir (ps ++ [""]) with
  | .existing loc => return loc
  | .absent .. => throw .noEntry

/-- The entry that a path is about. -/
def slot (t : FileTree) (p : FilePath) : Except HostError Slot := do
  let ps ← checkPath p
  match splitLast ps.reverse false with
  | none => return .special
  | some (before, last, slash) =>
    let dir ← ofWalk (t.walkDirectory (origin t.workDir p.text) before)
    if last = "." || last = ".." then return .special
    else if nameLimit < last.utf8ByteSize then throw (.system .nameTooLong)
    else return .entry dir last slash

end FileTree

end NetReconcile
