import NetReconcile.FileTree.Store
import NetReconcile.Shell.Bytes
import NetReconcile.Shell.Script.Basic

/-!
# Running shells

What a running program can see and change comes in two parts. The files of the machine and the
buffers between programs are there once; the streams, parameters and options of a program are its
own, and a program that it starts gets a copy.

What a program writes goes into a buffer, out of which another can read it later. The programs of a
pipe run one after the other, so nothing is read before it has been written.

## Main definitions

* `World`, `Session`: what is there once, and what belongs to one program.
* `Flow`: how a command can be left before its end.
* `Act`: what a program does.
* `inChild`: what a copy of a program does.
-/

namespace NetReconcile

namespace Shell

/-! ### State -/

/-- Where a stream leads. -/
inductive Handle
  | buffer (n : Nat)
  | file (loc : FileTree.Location)
  /-- What is written is lost, and there is nothing to read. -/
  | null
  deriving DecidableEq, Repr

/-- The number of the first process. -/
def firstProcess : Nat :=
  1000

/-- What is there once for all programs. The first three buffers are the streams of the first
program. -/
structure World where
  files : FileTree
  buffers : Array String := #["", "", ""]
  /-- The number of the latest process. -/
  latest : Nat := firstProcess

/-- A parameter that has a name. -/
structure Parameter where
  value : Option String
  isExported : Bool := false
  isReadOnly : Bool := false
  deriving Repr

/-- What belongs to one program, with the world. -/
structure Session where
  world : World
  streams : List (Nat × Handle) := [(0, .buffer 0), (1, .buffer 1), (2, .buffer 2)]
  parameters : List (String × Parameter) := []
  /-- How messages name the program. -/
  name : String := "sh"
  arguments : List String := []
  functions : List (String × Command) := []
  /-- The letters of the options that are set. -/
  options : List Char := []
  /-- The texts that redirections take from scripts. -/
  documents : Array Word := #[]
  /-- What is done when a signal arrives, or at the end, by the name of the signal. -/
  traps : List (String × String) := []
  /-- The status of the latest command. -/
  status : Nat := 0
  /-- The status of the latest substitution of a command, if there has been one. -/
  substituted : Option Nat := none
  line : Nat := 1
  /-- What the shell does by itself at this time. -/
  activity : Option String := none
  loopDepth : Nat := 0
  /-- The parameters that the functions which are running have covered, the innermost first. -/
  covered : List (List (String × Option Parameter)) := []
  /-- The number of the process that runs the script. -/
  process : Nat := firstProcess
  /-- The number and the status of what has run in the background latest. -/
  background : Option Nat := none
  backgroundStatus : Nat := 0

/-- How a command can be left before its end. -/
inductive Flow
  | ended (status : Nat)
  /-- Something that a script does not survive, unless it is in a command that catches it. -/
  | failed (status : Nat)
  /-- A number of loops is left. -/
  | left (loops : Nat)
  /-- A number of loops but one is left, and that one goes on. -/
  | continued (loops : Nat)
  | returned (status : Nat)
  | killed (process signal : Nat)
  deriving DecidableEq, Repr

/-- What a program does. -/
abbrev Act :=
  EStateM Flow Session

/-! ### Streams -/

/-- A buffer that holds a text. -/
def newBuffer (text : String) : Act Nat :=
  modifyGet fun s ↦
    (s.world.buffers.size, { s with world.buffers := s.world.buffers.push text })

/-- Where a stream leads, if it is open. -/
def handle? (stream : Nat) : Act (Option Handle) :=
  return (← get).streams.lookup stream

/-- Lets a stream lead elsewhere, or nowhere. -/
def setStream (stream : Nat) (h : Option Handle) : Act Unit :=
  modify fun s ↦
    let others := s.streams.filter (·.1 ≠ stream)
    { s with streams := others ++ (h.map (stream, ·)).toList }

/-- Adds to a file. -/
def appendTo (loc : FileTree.Location) (text : String) (t : FileTree) : FileTree :=
  match t.get? loc with
  | some (.file old isExecutable) => t.set loc (.file (old ++ toBytes text) isExecutable)
  | _ => t

/-- Writes to a stream. The answer says whether it could be written to. -/
def write (stream : Nat) (text : String) : Act Bool := do
  match ← handle? stream with
  | none => return false
  | some .null => return true
  | some (.buffer n) =>
    modify fun s ↦ { s with world.buffers := s.world.buffers.modify n (· ++ text) }
    return true
  | some (.file loc) =>
    modify fun s ↦ { s with world.files := appendTo loc text s.world.files }
    return true

/-- Writes a message, which ends its line. -/
def say (message : String) : Act Unit :=
  discard (write 2 (message ++ "\n"))

/-- Takes what can be read from a stream. -/
def takeAll (stream : Nat) : Act String := do
  match ← handle? stream with
  | some (.buffer n) =>
    modifyGet fun s ↦
      (s.world.buffers[n]?.getD "", { s with world.buffers := s.world.buffers.setIfInBounds n "" })
  | _ => return ""

/-- Takes a line from a stream. The answer says whether it had an end. -/
def takeLine (stream : Nat) : Act (String × Bool) := do
  let text ← takeAll stream
  let line := text.toList.takeWhile (· ≠ '\n')
  match ← handle? stream with
  | some (.buffer n) =>
    let rest := String.ofList (text.toList.drop (line.length + 1))
    modify fun s ↦ { s with world.buffers := s.world.buffers.setIfInBounds n rest }
  | _ => pure ()
  return (String.ofList line, line.length < text.length)

/-! ### Messages -/

/-- Says what is wrong in a script, and where. -/
def complain (message : String) : Act Unit := do
  let s ← get
  let activity := (s.activity.map (· ++ ": ")).getD ""
  say s!"{s.name}: {s.line}: {activity}{message}"

/-- Says what is wrong, and gives up. -/
def giveUpWith {α : Type} (status : Nat) (message : String) : Act α := do
  complain message
  throw (.failed status)

/-- Says what is wrong, and gives up. -/
def giveUp {α : Type} (message : String) : Act α :=
  giveUpWith 2 message

/-- Whether an option is set. -/
def hasOption (letter : Char) : Act Bool :=
  return letter ∈ (← get).options

/-! ### Parameters -/

/-- Sets a parameter in a list. -/
def setIn (name : String) (p : Option Parameter) (ps : List (String × Parameter)) :
    List (String × Parameter) :=
  ps.filter (·.1 ≠ name) ++ (p.map (name, ·)).toList

/-- Sets or removes a parameter, whatever it has been. -/
def putParameter (name : String) (p : Option Parameter) : Act Unit :=
  modify fun s ↦ { s with parameters := setIn name p s.parameters }

/-- The parameter of a name. -/
def parameter? (name : String) : Act (Option Parameter) :=
  return (← get).parameters.lookup name

/-- Refuses to change a parameter that is read only. -/
def checkWritable (name : String) : Act Unit := do
  if ((← parameter? name).map (·.isReadOnly)).getD false then giveUp s!"{name}: is read only"

/-- Gives a parameter a value. -/
def assign (name value : String) : Act Unit := do
  checkWritable name
  let old ← parameter? name
  let isExported := (old.map (·.isExported)).getD false || 'a' ∈ (← get).options
  putParameter name (some { value := some value, isExported })

/-- The value of a parameter that has a name. -/
def valueOf? (name : String) : Act (Option String) :=
  return (← parameter? name).bind (·.value)

/-- The value of a parameter that has a name, or nothing. -/
def valueOrEmpty (name : String) : Act String :=
  return (← valueOf? name).getD ""

/-- The characters at which what has been replaced is split. -/
def separators : Act (List Char) :=
  return ((← valueOf? "IFS").getD " \t\n").toList

/-! ### Processes -/

/-- Does something, and gives the streams back what they led to. -/
def keepingStreams {α : Type} (act : Act α) : Act α := fun s ↦
  match act s with
  | .ok a t => .ok a { t with streams := s.streams }
  | .error e t => .error e { t with streams := s.streams }

/-- Does something, and goes on with another activity afterwards. -/
def during {α : Type} (activity : Option String) (act : Act α) : Act α := fun s ↦
  match act { s with activity } with
  | .ok a t => .ok a { t with activity := s.activity }
  | .error e t => .error e { t with activity := s.activity }

/-- The files after a program has run that had a working directory of its own. -/
def filesAfter (before after : FileTree) : FileTree :=
  { after with workDir := before.workDir }

/-- What a copy of a program does. Only the world keeps what has changed. -/
def inChild {α : Type} (act : Act α) : Act α := fun s ↦
  let back (t : Session) : Session :=
    { s with world := { t.world with files := filesAfter s.world.files t.world.files } }
  match act s with
  | .ok a t => .ok a (back t)
  | .error e t => .error e (back t)

/-- A number for a process that is started. -/
def newProcess : Act Nat :=
  modifyGet fun s ↦ (s.world.latest + 1, { s with world.latest := s.world.latest + 1 })

end Shell

end NetReconcile
