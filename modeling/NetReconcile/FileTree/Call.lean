import NetReconcile.FileTree.Walk

/-!
# Calls on a file tree

What a program can ask of a file system, one entry at a time. A call that fails changes nothing.

A new file takes the place of a file or a link when it is renamed over it; a directory is never
replaced, and links at the end of a path are replaced themselves, not what they lead to. Opening a
file to write it is different: it follows links, and makes the file that the last of them names.
-/

namespace NetReconcile

namespace FileTree

/-! ### Reading -/

/-- The location that a path leads to, opened for reading. -/
def openPath (t : FileTree) (p : FilePath) : Except HostError Location := do
  match ← t.locate .node p with
  | .existing loc => return loc
  | .absent .. => throw (.system .noEntry)

/-- The contents of the file at a location. -/
def contents (t : FileTree) (loc : Location) : Except HostError (List UInt8) :=
  match t.get? loc with
  | some (.file bytes _) => .ok bytes
  | some (.directory _) => .error (.system .isDirectory)
  | some (.link _) | none => .error (.system .noEntry)

/-- The bytes of the file that a path leads to. -/
def readBytes (t : FileTree) (p : FilePath) : Except HostError (List UInt8) := do
  t.contents (← t.openPath p)

/-- The text of the file that a path leads to. -/
def readText (t : FileTree) (p : FilePath) : Except HostError String := do
  match Text.ofBytes? (← t.readBytes p) with
  | some text => return text
  | none => throw .notUtf8

/-- Whether a path leads to something. -/
def pathExists (t : FileTree) (p : FilePath) : Bool :=
  (t.openPath p).isOk

/-- The mode of the directory that a path leads to. -/
def mode? (t : FileTree) (p : FilePath) : Option Nat := do
  match t.get? (← (t.openPath p).toOption) with
  | some (.directory mode) => some mode
  | _ => none

/-- The path that a link holds. -/
def readLink? (t : FileTree) (p : FilePath) : Option FilePath := do
  match (t.locate .entry p).toOption with
  | some (.existing loc) =>
    match t.get? loc with
    | some (.link target) => some ⟨target⟩
    | _ => none
  | _ => none

/-! ### Changing -/

/-- A change of a file tree. -/
abbrev Change (α : Type) :=
  HostM FileTree α

/-- Fails with an error of the system. -/
def fail {α : Type} (e : Errno) : Change α :=
  throw (.system e)

/-- An answer that does not change the tree. -/
def ask {α : Type} (question : FileTree → Except HostError α) : Change α := fun t ↦
  match question t with
  | .ok a => .ok a t
  | .error e => .error e t

/-- What is at an entry of a directory. -/
def nodeAt (dir : Location) (name : String) : Change (Option Node) :=
  return (← get).get? (name :: dir)

/-- Sets the node at a location. -/
def put (loc : Location) (node : Node) : Change Unit :=
  modify (·.set loc node)

/-- Makes a directory. -/
def makeDirectory (p : FilePath) (mode : Nat) : Change Unit := do
  match ← ask (·.slot p) with
  | .special => fail .entryExists
  | .entry dir name _ =>
    if (← nodeAt dir name).isSome then fail .entryExists
    put (name :: dir) (.directory (mode % 0o10000))

/-- Opens a file to write it, which leaves it empty. -/
def createFile (p : FilePath) : Change Location := do
  match ← ask (·.locate .file p) with
  | .absent dir name =>
    put (name :: dir) (.file [] false)
    return name :: dir
  | .existing loc =>
    match (← get).get? loc with
    | some (.file _ isExecutable) =>
      put loc (.file [] isExecutable)
      return loc
    | _ => fail .isDirectory

/-- Sets the contents of an opened file. -/
def fill (loc : Location) (bytes : List UInt8) : Change Unit := do
  match (← get).get? loc with
  | some (.file _ isExecutable) => put loc (.file bytes isExecutable)
  | _ => pure ()

/-- Removes a file or a link. -/
def removeEntry (p : FilePath) : Change Unit := do
  match ← ask (·.slot p) with
  | .special => fail .isDirectory
  | .entry dir name slash =>
    match ← nodeAt dir name with
    | none => fail .noEntry
    | some (.directory _) => fail .isDirectory
    | some _ => if slash then fail .notDirectory else modify (·.erase (name :: dir))

/-- The path that a link is to hold, as a call accepts it. -/
def linkText (target : FilePath) : Except Errno String :=
  if '\x00' ∈ target.text.toList then .error .invalidArgument
  else if target.text = "" then .error .noEntry
  else if pathLimit < target.text.utf8ByteSize then .error .nameTooLong
  else .ok target.text

/-- Makes a link. -/
def makeLink (target p : FilePath) : Change Unit := do
  let text ← ask fun _ ↦ ofWalk (linkText target)
  match ← ask (·.slot p) with
  | .special => fail .entryExists
  | .entry dir name slash =>
    if (← nodeAt dir name).isSome then fail .entryExists
    if slash then fail .noEntry
    put (name :: dir) (.link text)

/-- Moves a file or a link to another path, where it takes the place of a file or a link. -/
def rename (source target : FilePath) : Change Unit := do
  match ← ask (·.slot source), ← ask (·.slot target) with
  | .entry dir name _, .entry dir' name' slash =>
    match ← nodeAt dir name with
    | none => fail .noEntry
    | some node =>
      if slash then fail .notDirectory
      match ← nodeAt dir' name' with
      | some (.directory _) => fail .isDirectory
      | _ =>
        modify (·.erase (name :: dir))
        put (name' :: dir') node
  | _, _ => fail .busy

end FileTree

end NetReconcile
