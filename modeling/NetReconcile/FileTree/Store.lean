import NetReconcile.FileTree.Call

/-!
# Files on a file tree

A file is written under another name in the same directory first and then renamed, so whoever reads
it finds the old contents or the new ones. The directories on the way to it are made if they are
missing. A link is made anew unless it already holds the path that it should hold.

A write that fails may leave the directories and the file under the other name behind. The last step
of a write opens the directory of the file, which fails only if the way to it led through the entry
that the file has replaced.

## Main definitions

* `FileTree.makeDirectories`: makes the directories that lead to a path.
* `FileTree.replaceFile`: writes a file under another name and renames it.
* `FileTree.writeFile`, `FileTree.replaceLink`: the operations of the instance of `FileStore`.
* `FileTree.place`: puts a node at a path, for trees that are given by what is in them.
-/

namespace NetReconcile

namespace FileTree

/-- Makes a directory, unless something is there already. -/
def makeMissing (mode : Nat) (dir : FilePath) : Change Unit := fun t ↦
  match makeDirectory dir mode t with
  | .ok _ t => .ok () t
  | .error (.system .entryExists) t => .ok () t
  | .error e t => .error (.during (.createDirectory dir) e) t

/-- Makes the given directories, in order. -/
def makeAll (mode : Nat) : List FilePath → Change Unit
  | [] => pure ()
  | dir :: dirs => do
    makeMissing mode dir
    makeAll mode dirs

/-- Makes a directory and those that lead to it, as far as they are missing. -/
def makeDirectories (p : FilePath) (mode : Nat) : Change Unit :=
  makeAll mode p.leading

/-- The directory of a file, as the calls that write the file name it. -/
def holder? (p : FilePath) : Option FilePath :=
  p.parent?.map fun parent ↦ if parent.text = "" then ⟨"."⟩ else parent

/-- The other name under which a file is written first. -/
def temporary (p : FilePath) : Option FilePath := do
  let dir ← holder? p
  let name ← p.fileName?
  return dir.join ("." ++ name ++ ".tmp")

/-- Writes a file under another name, and renames it unless there is a failure after writing. The
directory is opened at last, so that what was renamed can be made to last. -/
def replaceFile (p : FilePath) (bytes : List UInt8) (failure : Option HostError) :
    Change Unit := do
  match holder? p, temporary p with
  | some dir, some tmp =>
    let loc ← within (.createFile tmp) (createFile tmp)
    fill loc bytes
    match failure with
    | some e => throw (.during (.writeFile p) e)
    | none =>
      within (.renameFile tmp p) (rename tmp p)
      discard <| within (.openDirectory dir) (ask (·.openPath dir))
  | _, _ => throw (.invalidPath p)

/-- Makes a file hold a text. -/
def writeFile (p : FilePath) (contents : String) : Change Unit := do
  match p.parent? with
  | some dir => if dir.text ≠ "" then makeDirectories dir defaultMode
  | none => pure ()
  replaceFile p (Text.toBytes contents) none

/-- Removes a file or a link, if there is one. -/
def removePresent (p : FilePath) : Change Unit := fun t ↦
  match removeEntry p t with
  | .ok _ t => .ok () t
  | .error (.system .noEntry) t => .ok () t
  | .error e t => .error (.during (.removeEntry p) e) t

/-- Makes a path a link to a target. A link that holds the target already stays. -/
def replaceLink (target link : FilePath) : Change Unit := do
  if ((← get).readLink? link).any (·.same target) then return
  removePresent link
  within (.linkPaths target link) (makeLink target link)

/-- The text of a file, or `none` if it does not exist. -/
def readFile (p : FilePath) : Change (Option String) := fun t ↦
  match t.readText p with
  | .ok text => .ok (some text) t
  | .error (.system .noEntry) => .ok none t
  | .error e => .error e t

instance : FileStore FileTree where
  isPresent p t := (t.pathExists p, t)
  read := readFile
  write := writeFile
  link := replaceLink

/-! ### Trees that are given by what is in them -/

/-- Puts a node at a path. The directories on the way are made if they are missing. -/
def place (p : FilePath) (node : Node) : Change Unit := do
  match p.parent? with
  | some dir => makeDirectories dir defaultMode
  | none => pure ()
  match node with
  | .directory mode => makeMissing mode p
  | .link target => makeLink ⟨target⟩ p
  | .file bytes isExecutable =>
    let loc ← createFile p
    put loc (.file bytes isExecutable)

/-- The tree after a change, whether or not it succeeded. -/
def after {α : Type} (change : Change α) (t : FileTree) : FileTree :=
  match change t with
  | .ok _ t => t
  | .error _ t => t

end FileTree

end NetReconcile
