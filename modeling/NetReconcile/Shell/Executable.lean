import NetReconcile.Shell.Program

/-!
# Finding programs

A name without a slash is looked for in the directories of a search path, some of which hold the
programs of the machine. Any other name is a path. Files of the tree can be run if they are marked
so, and if they name on their first line a program that runs them.

## Main definitions

* `Executable`: something that can be run.
* `resolve`: what a name stands for.
-/

namespace NetReconcile

namespace Shell

/-- What can be run: a program, the name that it is called by, and the arguments that it gets before
those of the call. -/
structure Executable where
  program : Program
  name : String
  given : List String := []

/-- The program that the first line of a file names after its mark, which may do so by way of the
program `env`. -/
def interpreter? (line : List Char) : Option Executable :=
  match (Text.fields line).map String.ofList with
  | ["/usr/bin/env", name] => (Program.ofName? name).map ({ program := ·, name })
  | name :: options =>
    if '/' ∈ name.toList then
      (Program.ofName? name).map ({
        program := ·, name, given := if options.isEmpty then [] else [" ".intercalate options] })
    else none
  | [] => none

/-- What running a file of the given bytes runs. The path of the file is an argument. -/
def ofFileBytes (p : FilePath) (bytes : List UInt8) : Except Errno Executable :=
  match (Text.lossy bytes).toList.takeWhile (· ≠ '\n') with
  | '#' :: '!' :: line =>
    match interpreter? line with
    | some e => .ok { e with given := e.given ++ [ofText p.text] }
    | none => .error .noEntry
  | _ => .error .execFormat

/-- The file at a path as something to run. -/
def executableAt (t : FileTree) (p : FilePath) : Except HostError Executable := do
  match t.get? (← t.openPath p) with
  | some (.file bytes true) => FileTree.ofWalk (ofFileBytes p bytes)
  | _ => throw (.system .permissionDenied)

/-- Whether a name is that of a directory in every directory. -/
def isDotName (name : String) : Bool :=
  name = "." || name = ".."

/-- Whether a directory is one of those that hold the programs of a machine. -/
def isProgramDirectory (dir : FilePath) : Bool :=
  programDirectories.any (· = dir.text ++ "/")

/-- Looks for a program in directories. A file that must not be run is passed over, but remembered
if nothing is found. -/
def search (t : FileTree) (name : String) (refused : Bool) :
    List FilePath → Except HostError Executable
  | [] => .error (.system (if refused then .permissionDenied else .noEntry))
  | dir :: dirs =>
    if isProgramDirectory dir then
      match Program.ofName? name with
      | some program => .ok { program, name }
      | none => search t name (refused || isDotName name) dirs
    else
      match executableAt t (dir.join (toText name)) with
      | .ok e => .ok e
      | .error (.system .permissionDenied) => search t name true dirs
      | .error (.system .noEntry) | .error (.system .notDirectory) => search t name refused dirs
      | .error e => .error e

/-- Whether a path leads through a program of the machine. -/
def passesProgram (name : String) : Bool :=
  programDirectories.any fun dir ↦ name.startsWith dir &&
    match name.toList.drop dir.length |>.splitOn '/' with
    | program :: _ :: _ => (Program.ofName? (String.ofList program)).isSome
    | _ => false

/-- Finds what a name stands for. A name with a slash is a path, and programs of the machine stand
at theirs whatever its files are. -/
def resolve (t : FileTree) (path : List FilePath) (name : String) : Except HostError Executable :=
  if name = "" then .error (.system .noEntry)
  else if '/' ∈ name.toList then
    match Program.ofName? name with
    | some program => .ok { program, name }
    | none =>
      if passesProgram name then .error (.system .notDirectory) else executableAt t (pathOf name)
  else if FileTree.nameLimit < name.length then .error (.system .nameTooLong)
  else search t name false path

/-- The directories that a machine looks for programs in. -/
def standardPath : List FilePath :=
  ["/usr/local/sbin", "/usr/local/bin", "/usr/sbin", "/usr/bin", "/sbin", "/bin"].map (⟨·⟩)

/-- The directories that a text lists. -/
def pathOfText (text : String) : List FilePath :=
  (text.toList.splitOn ':').map fun cs ↦ pathOf (String.ofList cs)

/-- The text that lists directories. -/
def textOfPath (path : List FilePath) : String :=
  ":".intercalate (path.map fun p ↦ ofText p.text)

end Shell

end NetReconcile
