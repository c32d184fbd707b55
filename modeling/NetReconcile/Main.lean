import NetReconcile.CommandLine

/-!
# The program

Runs the command line on an image of the host. The image holds the files that the program may look
at; what is new or different in it afterwards is written to the host. The links in the image and the
programs that it would run are left to the operator, because this program makes no links and starts
no processes: links are listed, and a restart that could not be done is reported.
-/

namespace NetReconcile.Main

open NetReconcile

/-- Where relative paths of the image start. -/
def workDir : FileTree.Location :=
  ["work"]

/-- The bytes of a file, if it can be read. -/
def load? (path : String) : IO (Option (List UInt8)) :=
  try
    let bytes ← IO.FS.readBinFile path
    return some bytes.toList
  catch _ => return none

/-- Adds a file to an image, if the host has it. -/
def addFile (image : FileTree) (path : FilePath) : IO FileTree := do
  match ← load? path.text with
  | some bytes => return FileTree.after (FileTree.place path (.file bytes false)) image
  | none => return image

/-- The names of interfaces in the table of the kernel. -/
def interfaceNames (table : String) : List String :=
  ((table.splitOn "\n").drop 2).filterMap fun line ↦
    match line.splitOn ":" with
    | name :: _ :: _ => some (Text.trim name)
    | _ => none

/-- The image of the host for what is asked for. -/
def image (i : Invocation) : IO FileTree := do
  let root : FileTree := ⟨[(workDir, .directory FileTree.defaultMode)], workDir⟩
  let first ← addFile root i.config
  match AgentConfig.ofFile i.config (first.readText i.config) with
  | .error _ => return first
  | .ok config =>
    let table := ((← load? "/proc/net/dev").bind Text.ofBytes?).getD ""
    let shown := FileTree.after (FileTree.place config.sysClassNet (.directory 0o755)) first
    (i.filesOf config (interfaceNames table)).foldlM addFile shown

/-- The path of a location of the image. -/
def pathOf (names : List String) : String :=
  match names with
  | "work" :: rest => "/".intercalate rest
  | names => "/" ++ "/".intercalate names

/-- Writes an entry of the image to the host. -/
def store (entry : List String × FileTree.Node) : IO Unit := do
  let path := pathOf entry.1
  match entry.2 with
  | .directory _ => IO.FS.createDirAll path
  | .file bytes _ => IO.FS.writeBinFile path ⟨bytes.toArray⟩
  | .link target => IO.eprintln s!"hostnet: link {path} to {target}"

/-- Does what is asked for, and gives the code to end with. -/
def perform (i : Invocation) : IO UInt32 := do
  let before ← image i
  let report := i.run [] before
  let old := before.listing []
  for entry in report.files.listing [] do
    if entry ∉ old then store entry
  for e in report.events do
    IO.eprintln (recordText e.level e.reporter.target e.message)
  for line in report.lines do
    IO.println line
  for failure in report.failure.toList do
    IO.eprintln failure.line
  return report.exitCode.toUInt32

end NetReconcile.Main

/-- Runs the program with its arguments. -/
def main (args : List String) : IO UInt32 :=
  match NetReconcile.Invocation.ofArgs? args with
  | some i => NetReconcile.Main.perform i
  | none => do
    IO.eprintln "usage: hostnet [--config FILE] [--debug] (setup --settings FILE | configured)"
    return 2
