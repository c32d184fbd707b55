import NetReconcile.Shell.Builtin
import NetReconcile.Shell.Executable

/-!
# Running commands

A command of a script is run by what it is: a simple one is expanded, its streams are redirected,
and its first word decides what it does; the others run commands inside them. Running a program with
a script in it runs commands too, so all of this is given what it needs for what is inside, and the
knot is tied as deep as programs and commands nest.

A command that fails ends a script that asks for that, unless something depends on whether it fails.

## Main definitions

* `evaluate`: runs a command.
* `runText`: runs a script.
* `launch`: runs a program as a process of its own.
* `runCommand`: runs a command of the host to the end, with its output.
-/

namespace NetReconcile

namespace Shell

/-- What running something needs for what is run inside it. -/
structure Runner extends Inner where
  execute : Executable → List String → Act Nat

/-! ### Scripts -/

/-- Repeats something until it has an answer. -/
def repeatAct {σ : Type} (step : σ → Act (σ ⊕ Nat)) : Nat → σ → Act Nat
  | 0, _ => throw (.failed 2)
  | fuel + 1, s => do
    match ← step s with
    | .inl s => repeatAct step fuel s
    | .inr status => return status

/-- Runs the commands of the next line of a script. -/
def runLine (i : Inner) (isTested : Bool) : Reader × Nat → Act (Reader × Nat ⊕ Nat)
  | (r, status) => do
    match readLine r with
    | .error fault r =>
      modify fun s ↦ { s with line := r.line }
      giveUp s!"Syntax error: {fault.message}"
    | .ok .finished _ => return .inr status
    | .ok (.commands none) r => return .inl (r, status)
    | .ok (.commands (some c)) r =>
      modify fun s ↦ { s with documents := r.documents }
      let status ← i.run isTested c
      return .inl ({ r with documents := (← get).documents }, status)

/-- Runs a script. -/
def runText (i : Inner) (isTested : Bool) (text : String) : Act Nat := do
  let s ← get
  let r : Reader :=
    { rest := text.toList, line := s.line, base := s.line, documents := s.documents }
  repeatAct (runLine i isTested) (text.length + 3) (r, 0)

/-! ### Redirections -/

/-- The wording of a failure to open a file. -/
def openFailure (verb : String) (target : String) (e : HostError) : String :=
  let reason :=
    if e = .system .noEntry || e = .system .notDirectory then
      if verb = "create" then "Directory nonexistent" else "No such file"
    else reasonOf e
  s!"cannot {verb} {target}: {reason}"

/-- The streams that have names as files. -/
def streamFiles : List (String × Nat) :=
  [("/dev/stdin", 0), ("/dev/stdout", 1), ("/dev/stderr", 2)]

/-- Opens a file to write to it. -/
def openToWrite (keepsOld : Bool) (target : String) : Act (Except HostError Handle) := do
  let old := ((← get).world.files.readBytes (pathOf target)).toOption.getD []
  match ← change (FileTree.createFile (pathOf target)) with
  | .error e => return .error e
  | .ok loc =>
    if keepsOld then discard (change (FileTree.fill loc old))
    return .ok (.file loc)

/-- Opens a file to read it. There is nothing to read in a directory. -/
def openToRead (target : String) : Act (Except HostError Handle) := do
  let files := (← get).world.files
  match files.readBytes (pathOf target) with
  | .ok bytes => return .ok (.buffer (← newBuffer (ofBytes bytes)))
  | .error (.system .isDirectory) => return .ok .null
  | .error e => return .error e

/-- Opens a file. -/
def openFile (mode : OpenMode) (target : String) : Act (Except HostError Handle) := do
  if target = "/dev/null" then return .ok .null
  match streamFiles.lookup target with
  | some stream => return .ok ((← handle? stream).getD .null)
  | none =>
    match mode with
    | .read => openToRead target
    | .write => openToWrite false target
    | .append | .both => openToWrite true target

/-- Carries a redirection out. The answer says whether it succeeds. -/
def redirect (i : Inner) : Redirect → Act Bool
  | .file stream mode w => do
    let target ← expandText i w
    match ← openFile mode target with
    | .ok h =>
      setStream stream (some h)
      return true
    | .error e =>
      complain (openFailure (if mode = .read then "open" else "create") target e)
      return false
  | .document stream index => do
    let w := ((← get).documents[index]?).getD []
    let n ← newBuffer (textOf (← i.expand w))
    setStream stream (some (.buffer n))
    return true
  | .duplicate stream w => do
    let source ← expandText i w
    if source = "-" then
      setStream stream none
      return true
    match (Text.digits? 10 source.toList).filter (· < 10) with
    | none => giveUp "Bad fd number"
    | some n =>
      match ← handle? n with
      | some h =>
        setStream stream (some h)
        return true
      | none =>
        complain s!"{n}: Bad file descriptor"
        return false

/-- Carries redirections out up to the first that fails. -/
def redirectAll (i : Inner) : List Redirect → Act Bool
  | [] => return true
  | r :: rs => do
    if ← redirect i r then redirectAll i rs else return false

/-! ### Programs -/

/-- The directories that programs are looked for in. -/
def searchPath : Act (List FilePath) :=
  return pathOfText (← valueOrEmpty "PATH")

/-- What a shell says of a program that it cannot run. -/
def refusalOf (name : String) (e : HostError) : String :=
  let reason :=
    if e = .system .noEntry || e = .system .notDirectory then "not found" else reasonOf e
  s!"{name}: {reason}"

/-- The status of a shell that cannot run a program: one if nothing is where it should be, and
another if what is there cannot be run. -/
def refusalStatus : HostError → Nat
  | .system .noEntry | .system .notDirectory | .system .nameTooLong | .system .tooManyLinks => 127
  | _ => 126

/-- What a shell runs for a name. A file that names no program is a script of its own. -/
def findProgram (name : String) : Act (Except HostError Executable) := do
  if name = "" then return .error (.system .permissionDenied)
  match resolve (← get).world.files (← searchPath) name with
  | .error (.system .execFormat) => return .ok { program := .sh, name, given := [name] }
  | outcome => return outcome

/-- The signals by which a program can end without a word about it: an interrupt, and a pipe that
nobody reads. -/
def quietSignals : List Nat :=
  [2, 13]

/-- Runs a program as a process of its own. A signal that has ended it is mentioned. -/
def launch (r : Runner) (e : Executable) (args : List String) : Act Nat := do
  let process ← newProcess
  let act : Act Nat := inChild do
    modify fun s ↦ { s with process }
    r.execute e (e.given ++ args)
  fun s ↦
    match act s with
    | .error (.killed p signal) t =>
      if p = process then
        match if signal ∈ quietSignals then .ok () t else
          say ((signalMeanings[signal - 1]?).getD "") t with
        | .ok () t | .error _ t => .ok (128 + signal) t
      else .error (.killed p signal) t
    | outcome => outcome

/-- Runs the program that a name stands for. -/
def runProgram (r : Runner) (name : String) (args : List String) : Act Nat := do
  match ← findProgram name with
  | .ok e => launch r e args
  | .error e =>
    complain (refusalOf name e)
    return if '/' ∈ name.toList then refusalStatus e else 127

/-! ### What runs other commands -/

/-- Does something with the parameters covered again afterwards that a function covers. -/
def callFunction (i : Inner) (isTested : Bool) (body : Command) (args : List String) : Act Nat :=
  fun s ↦
    let back (t : Session) : Session :=
      let parameters := (t.covered.headD []).foldl (fun ps (name, old) ↦ setIn name old ps)
        t.parameters
      { t with
        parameters, covered := t.covered.tail, arguments := s.arguments, loopDepth := s.loopDepth }
    match i.run isTested body { s with
      arguments := args, loopDepth := 0, covered := [] :: s.covered } with
    | .ok status t | .error (.returned status) t => .ok status (back t)
    | .error e t => .error e (back t)

/-- Runs arguments as a script. -/
def runArguments (i : Inner) (isTested : Bool) (args : List String) : Act Nat :=
  if args.isEmpty then return 0 else i.script isTested (" ".intercalate args)

/-- The file that a script is read from, for a name that is looked for like a program. -/
def scriptFile? (name : String) : Act (Option FilePath) := do
  if '/' ∈ name.toList then return some (pathOf name)
  let files := (← get).world.files
  return ((← searchPath).map fun dir ↦ dir.join (toText name)).find? fun p ↦
    (files.readBytes p).isOk

/-- Runs a text as a part of a script. Its lines are counted from one, and it can be left like a
function. -/
def runAsPart (i : Inner) (isTested : Bool) (text : String) : Act Nat := fun s ↦
  match i.script isTested text { s with line := 1 } with
  | .error (.returned status) t | .ok status t => .ok status { t with line := s.line }
  | .error e t => .error e t

/-- Runs a file as a script, as a part of this one. -/
def runPart (i : Inner) (isTested : Bool) (args : List String) : Act Nat := do
  match (← shellOptions [] args).2 with
  | [] => return 0
  | name :: _ =>
    match ← scriptFile? name with
    | none => giveUp s!"{name}: not found"
    | some p =>
      match (← get).world.files.readBytes p with
      | .error e => giveUp (openFailure "open" name e)
      | .ok bytes => during (some (ofText p.text)) (runAsPart i isTested (ofBytes bytes))

/-- Goes on as a program, if one is given. -/
def replaceBy (r : Runner) (args : List String) : Act Nat := do
  match if args.head? = some "--" then args.tail else args with
  | [] => return 0
  | name :: rest =>
    match ← findProgram name with
    | .ok e =>
      let process := (← get).process
      let status ← inChild do
        modify fun s ↦ { s with process }
        r.execute e (e.given ++ rest)
      throw (.ended status)
    | .error e =>
      complain (refusalOf name e)
      throw (.ended (refusalStatus e))

/-- The names of what runs other commands. -/
def runningNames : List String :=
  ["eval", ".", "exec", "command", "type"]

/-- Whether a shell does by itself what a name stands for. -/
def isBuiltin (i : Inner) (name : String) : Bool :=
  name ∈ runningNames || (builtin? i name).isSome

/-- Where a program is found. -/
def programPlace (name : String) : Act (Option String) := do
  match ← findProgram name with
  | .error _ => return none
  | .ok e =>
    if '/' ∈ name.toList then return some name
    let files := (← get).world.files
    let place := (← searchPath).find? fun dir ↦
      (search files name false [dir]).isOk || e.program = .sh && files.pathExists (dir.join name)
    return place.map fun dir ↦ ofText (dir.join (toText name)).text

/-- Says what a name stands for. -/
def describe (i : Inner) (name : String) : Act Bool := do
  let s ← get
  if name ∈ keywords then put s!"{name} is a shell keyword\n"
  else if name ∈ specialBuiltins then put s!"{name} is a special shell builtin\n"
  else if s.functions.any (·.1 = name) then put s!"{name} is a shell function\n"
  else if isBuiltin i name then put s!"{name} is a shell builtin\n"
  else
    match ← programPlace name with
    | some place => put s!"{name} is {place}\n"
    | none =>
      put s!"{name}: not found\n"
      return false
  return true

/-- Shows what a name would run. -/
def showCommand (i : Inner) (name : String) : Act Nat := do
  let s ← get
  if name ∈ keywords || s.functions.any (·.1 = name) || isBuiltin i name then
    put (name ++ "\n")
    return 0
  match ← programPlace name with
  | some place =>
    put (place ++ "\n")
    return 0
  | none => return 127

/-- Does what a shell does by itself. What goes wrong does not end a script unless it is special. -/
def runBuiltin (name : String) (isSpecial : Bool) (act : Act Nat) : Act Nat := fun s ↦
  match during (some name) act s with
  | .error (.failed status) t => if isSpecial then .error (.failed status) t else .ok status t
  | outcome => outcome

/-- Runs a command that is no function. -/
def runPlain (r : Runner) (isTested : Bool) : List String → Act Nat
  | [] => return 0
  | name :: args =>
    match name with
    | "eval" => runBuiltin name true (runArguments r.toInner isTested args)
    | "." => runBuiltin name true (runPart r.toInner isTested args)
    | "exec" => runBuiltin name true (replaceBy r args)
    | "type" => runBuiltin name false do
      let found ← args.mapM (describe r.toInner)
      return if found.all id then 0 else 127
    | _ =>
      match builtin? r.toInner name with
      | some act => runBuiltin name (name ∈ specialBuiltins) (act args)
      | none => runProgram r name args

/-- Runs a command that is neither special nor a function, or says what it would be. -/
def runAsCommand (r : Runner) (isTested : Bool) (args : List String) : Act Nat := do
  let (options, operands) ← during (some "command") (shellOptions ['p', 'v', 'V'] args)
  match operands with
  | [] => return 0
  | name :: rest =>
    if 'v' ∈ options then showCommand r.toInner name
    else if 'V' ∈ options then return if ← describe r.toInner name then 0 else 127
    else fun s ↦
      match runPlain r isTested (name :: rest) s with
      | .error (.failed status) t => .ok status t
      | outcome => outcome

/-- Runs a function or a command. -/
def runNamed (r : Runner) (isTested : Bool) (args : List String) : Act Nat := do
  let name := args.headD ""
  let s ← get
  match if name ∈ specialBuiltins then none else s.functions.lookup name with
  | some body => callFunction r.toInner isTested body args.tail
  | none =>
    if name = "command" then
      runBuiltin name false (during none (runAsCommand r isTested args.tail))
    else runPlain r isTested args

/-! ### Simple commands -/

/-- What marks parameters, and has assignments among its arguments. -/
def declaringNames : List String :=
  ["export", "readonly", "local"]

/-- The texts of the words of a command. Where it marks parameters, assignments are not split. -/
def expandWords (i : Inner) (ws : List Word) : Act (List String) := do
  let isDeclaring := (ws.head?.bind literal?).any (· ∈ declaringNames)
  let texts ← ws.mapM fun w ↦ do
    match if isDeclaring then assignment? w else none with
    | some (name, value) => return [name ++ "=" ++ (← expandText i value)]
    | none => expandWord i w
  return texts.flatten

/-- Makes assignments, whose values are replaced one after the other. -/
def assignAll (i : Inner) (assignments : List (String × Word)) : Act (List String) :=
  assignments.mapM fun (name, w) ↦ do
    let value ← expandText i w
    assign name value
    return name ++ "=" ++ value

/-- Makes assignments that hold as long as a command runs, for programs as well. -/
def withAssignments (i : Inner) (assignments : List (String × Word)) (act : List String → Act Nat) :
    Act Nat := do
  let before ← get
  let texts ← assignAll i assignments
  assignments.forM fun (name, _) ↦ do
    putParameter name ((← parameter? name).map ({ · with isExported := true }))
  let back (s : Session) : Session :=
    { s with parameters := assignments.foldl (fun ps (name, _) ↦
        setIn name (before.parameters.lookup name) ps) s.parameters }
  fun s ↦
    match act texts s with
    | .ok status t => .ok status (back t)
    | .error e t => .error e (back t)

/-- Shows a command before it is run, where that is asked for. -/
def trace (texts : List String) : Act Unit := do
  if ← hasOption 'x' then say ("+ " ++ " ".intercalate texts)

/-- Runs a simple command. The streams of what replaces the shell, or nothing, stay as they are. -/
def runSimple (r : Runner) (isTested : Bool) (assignments : List (String × Word))
    (ws : List Word) (redirects : List Redirect) : Act Nat := do
  modify fun s ↦ { s with substituted := none }
  let args ← expandWords r.toInner ws
  let name := args.headD ""
  let isSpecial := name ∈ specialBuiltins
  let keeping : Act Nat → Act Nat := if name = "exec" && args.length = 1 then id else keepingStreams
  keeping do
    if !(← redirectAll r.toInner redirects) then
      if isSpecial then throw (.failed 2)
      return 2
    if args.isEmpty then
      let texts ← assignAll r.toInner assignments
      if !texts.isEmpty then trace texts
      return (← get).substituted.getD 0
    else if isSpecial then
      trace ((← assignAll r.toInner assignments) ++ args)
      runNamed r isTested args
    else
      withAssignments r.toInner assignments fun texts ↦ do
        trace (texts ++ args)
        runNamed r isTested args

/-! ### Other commands -/

/-- Runs a command, if there is one. -/
def runOptional (i : Inner) (isTested : Bool) : Option Command → Act Nat
  | some c => i.run isTested c
  | none => return 0

/-- Runs the body of a loop. The answer says whether the loop goes on. -/
def runBody (i : Inner) (isTested : Bool) (body : Option Command) : Act (Bool × Nat) := fun s ↦
  match runOptional i isTested body s with
  | .ok status t => .ok (true, status) t
  | .error (.left n) t => if n ≤ 1 then .ok (false, 0) t else .error (.left (n - 1)) t
  | .error (.continued n) t => if n ≤ 1 then .ok (true, 0) t else .error (.continued (n - 1)) t
  | .error e t => .error e t

/-- Runs a loop. -/
def inLoop (act : Act Nat) : Act Nat := fun s ↦
  match act { s with loopDepth := s.loopDepth + 1 } with
  | .ok status t => .ok status { t with loopDepth := s.loopDepth }
  | .error e t => .error e { t with loopDepth := s.loopDepth }

/-- How often loops are gone through. -/
def loopLimit : Nat :=
  100000

/-- Runs a loop with a test. -/
def runLoop (i : Inner) (isTested isUntil : Bool) (test body : Option Command) : Act Nat :=
  inLoop <| repeatAct (fun (status : Nat) ↦ do
    let (goesOn, outcome) ← runBody i true test
    if !goesOn then return .inr outcome
    else if (outcome = 0) = isUntil then return .inr status
    else
      let (goesOn, status) ← runBody i isTested body
      return if goesOn then .inl status else .inr status) loopLimit 0

/-- Runs a loop over texts. -/
def runEach (i : Inner) (isTested : Bool) (name : String) (body : Option Command) :
    Nat → List String → Act Nat
  | status, [] => return status
  | _, value :: values => do
    assign name value
    let (goesOn, status) ← runBody i isTested body
    if goesOn then runEach i isTested name body status values else return status

/-- Whether a text fits one of some patterns. -/
def fitsOne (i : Inner) (text : String) : List Word → Act Bool
  | [] => return false
  | w :: ws => do
    if (← expandPattern i w).covers text.toList then return true else fitsOne i text ws

/-- Runs the first branch that a text fits. -/
def runBranch (i : Inner) (isTested : Bool) (text : String) :
    List (List Word × Option Command) → Act Nat
  | [] => return 0
  | (ps, body) :: branches => do
    if ← fitsOne i text ps then runOptional i isTested body
    else runBranch i isTested text branches

/-- Runs commands each of which reads what the one before it has written. -/
def runPipe (i : Inner) (isTested : Bool) : Option Nat → List Command → Act Nat
  | _, [] => return 0
  | before, c :: cs => do
    let next ← if cs.isEmpty then pure none else some <$> newBuffer ""
    let status ← inSubshell i do
      if let some n := before then setStream 0 (some (.buffer n))
      if let some n := next then setStream 1 (some (.buffer n))
      i.run isTested c
    if cs.isEmpty then return status else runPipe i isTested next cs

/-- Runs a command with redirections in a shell of its own. -/
def runSubshell (i : Inner) (isTested : Bool) (body : Option Command) (rs : List Redirect) :
    Act Nat :=
  inSubshell i do
    if ← redirectAll i rs then runOptional i isTested body else throw (.failed 2)

/-- Runs a command that is not waited for. It reads nothing, and is run at once. -/
def runBackground (i : Inner) (body : Command) : Act Nat := do
  let process ← newProcess
  let status ← inSubshell i do
    setStream 0 (some .null)
    i.run false body
  modify fun s ↦ { s with background := some process, backgroundStatus := status }
  return 0

/-- Ends a script that asks for it after a command that has failed. -/
def checkFailure (isTested : Bool) (status : Nat) : Act Nat := do
  modify fun s ↦ { s with status }
  if status ≠ 0 && !isTested && (← hasOption 'e') then throw (.ended status)
  return status

/-- Notes the line of a command. -/
def atLine (line : Nat) : Act Unit :=
  modify fun s ↦ { s with line }

/-- Runs a command by what it is. -/
def evaluateBody (r : Runner) (isTested : Bool) (c : Command) : Act Nat := do
  let i := r.toInner
  match c with
  | .simple line assignments ws redirects =>
    atLine line
    checkFailure isTested (← runSimple r isTested assignments ws redirects)
  | .subshell line body redirects =>
    atLine line
    checkFailure isTested (← runSubshell i isTested body redirects)
  | .redirected line body redirects =>
    atLine line
    keepingStreams do
      if ← redirectAll i redirects then runOptional i isTested body else return 2
  | .pipe parts => checkFailure isTested (← runPipe i isTested none parts)
  | .background body => checkFailure isTested (← runBackground i body)
  | .negated body => return if (← i.run true body) = 0 then 1 else 0
  | .both a b =>
    let status ← i.run true a
    if status = 0 then i.run isTested b else return status
  | .either a b =>
    let status ← i.run true a
    if status ≠ 0 then i.run isTested b else return status
  | .sequence a b =>
    discard (i.run isTested a)
    i.run isTested b
  | .conditional test body otherwise =>
    if (← runOptional i true test) = 0 then runOptional i isTested body
    else runOptional i isTested otherwise
  | .loop isUntil test body => runLoop i isTested isUntil test body
  | .each line name ws body =>
    atLine line
    let values ← ws.mapM (expandWord i)
    inLoop (runEach i isTested name body 0 values.flatten)
  | .choice line subject branches =>
    atLine line
    runBranch i isTested (← expandText i subject) branches
  | .definition name body =>
    modify fun s ↦ { s with functions := (name, body) :: s.functions }
    return 0

/-- Runs a command, given what it needs for those inside it, and notes its status. -/
def evaluate (r : Runner) (isTested : Bool) (c : Command) : Act Nat := do
  let status ← evaluateBody r isTested c
  modify fun s ↦ { s with status }
  return status

/-! ### Shells -/

/-- What a shell is called with. -/
structure ShellCall where
  options : List Char := []
  /-- Whether the script is an argument itself. -/
  isGiven : Bool := false
  operands : List String := []

/-- Takes the arguments of a shell apart. -/
def shellCall : Nat → List String → Except OptionFault ShellCall
  | 0, _ | _, [] => .ok {}
  | fuel + 1, arg :: rest =>
    match arg.toList with
    | ['-', '-'] => .ok { operands := rest }
    | ['-'] => .ok { operands := rest }
    | '-' :: c :: cs => do
      let letters := c :: cs
      if let some letter := letters.find? fun l ↦ l ≠ 'c' && !optionNames.any (·.2 = l) then
        throw (.unknownLetter letter)
      let call ← shellCall fuel rest
      return { call with
        options := letters.filter (· ≠ 'c') ++ call.options
        isGiven := call.isGiven || 'c' ∈ letters }
    | _ => .ok { operands := arg :: rest }

/-- Starts a shell, which knows of the one that starts it only what is meant for programs. -/
def freshShell (name : String) (options : List Char) (args : List String) (s : Session) :
    Session where
  world := s.world
  streams := s.streams
  parameters := s.parameters.filter (·.2.isExported)
  process := s.process
  name := name
  options := options
  arguments := args

/-- Runs a shell with its arguments. -/
def runShell (i : Inner) (name : String) (args : List String) : Act Nat := do
  let refuse (message : String) : Act Nat := do
    say s!"{name}: 0: {message}"
    return 2
  let start (name : String) (options : List Char) (args : List String) (text : String) : Act Nat :=
    do
      modify (freshShell name options args)
      toEnd i (i.script false text)
  match shellCall (args.length + 1) args with
  | .error (.unknownLetter letter) => refuse s!"Illegal option -{letter}"
  | .error fault => refuse fault.message
  | .ok call =>
    if call.isGiven then
      match call.operands with
      | [] => refuse "-c requires an argument"
      | text :: rest => start (rest.headD name) call.options rest.tail text
    else
      match if 's' ∈ call.options then [] else call.operands with
      | [] => start name call.options call.operands (← takeAll 0)
      | path :: rest =>
        match (← get).world.files.readBytes (pathOf path) with
        | .ok bytes => start path call.options rest (ofBytes bytes)
        | .error e => refuse (openFailure "open" path e)

/-- Shows the parameters that are meant for programs. -/
def showEnvironment : Act Nat := do
  (← get).parameters.forM fun (name, p) ↦
    match p.value with
    | some value => if p.isExported then put s!"{name}={value}\n" else pure ()
    | none => pure ()
  return 0

/-- Runs a program with other parameters, or shows them. -/
def runWithEnvironment (execute : Executable → List String → Act Nat) (name : String) :
    List String → Act Nat
  | [] => showEnvironment
  | arg :: rest => do
    match arg, splitAssignment arg with
    | "-i", _ | "-", _ =>
      modify fun s ↦ { s with parameters := s.parameters.filter fun (n, _) ↦ n = "PATH" }
      modify fun s ↦ { s with
        parameters := s.parameters.map fun (n, p) ↦ (n, { p with isExported := false }) }
      runWithEnvironment execute name rest
    | _, (n, some value) =>
      putParameter n (some { value := some value, isExported := true })
      runWithEnvironment execute name rest
    | _, (_, none) =>
      match resolve (← get).world.files (← searchPath) arg with
      | .ok e => execute e (e.given ++ rest)
      | .error e =>
        say s!"{name}: '{arg}': {reasonOf e}"
        return if e = .system .noEntry then 127 else 126

/-- Runs something that can be run, given what it needs for what is inside. -/
def runExecutable (r : Runner) (e : Executable) (args : List String) : Act Nat :=
  match e.program with
  | .sh => runShell r.toInner e.name args
  | .env => runWithEnvironment r.execute e.name args
  | program => program.perform e.name args

/-! ### Nesting -/

/-- What running something needs, given what running what is inside it needs. -/
def Runner.around (r : Runner) : Runner where
  run := evaluate r
  expand := expandPieces r.toInner
  script := runText r.toInner
  execute := runExecutable r

/-- What running something needs that nests to a limited depth. -/
def runner : Nat → Runner
  | 0 => {
    run := fun _ _ ↦ throw (.failed 2)
    expand := fun _ ↦ throw (.failed 2)
    script := fun _ _ ↦ throw (.failed 2)
    execute := fun _ _ ↦ throw (.failed 2) }
  | depth + 1 => (runner depth).around

/-- How deep programs and commands nest. -/
def depthLimit : Nat :=
  10000

/-! ### Commands of a host -/

/-- What a program has written. -/
structure Output where
  stdout : List UInt8 := []
  stderr : List UInt8 := []
  deriving DecidableEq, Repr

/-- What the first program starts with. -/
def firstSession (path : List FilePath) (t : FileTree) : Session where
  world := { files := t }
  parameters := [
    ("HOME", { value := some "/root", isExported := true }),
    ("PATH", { value := some (textOfPath path), isExported := true })]

/-- What has been written to the streams of the first program. -/
def Session.output (s : Session) : Output :=
  ⟨toBytes (s.world.buffers[1]?.getD ""), toBytes (s.world.buffers[2]?.getD "")⟩

/-- Runs a command to the end. It fails if there is nothing to run, and unless the program ends with
the code zero. Programs are looked for in the given directories first. -/
def runCommand (before : List FilePath) : List String → HostM FileTree Output
  | [] => throw .emptyCommand
  | name :: args => fun t ↦
    let path := before ++ standardPath
    if (name :: args).any fun a ↦ '\x00' ∈ a.toList then
      .error (.during (.runProgram name) .nulInCommand) t
    else
      match resolve t path (ofText name) with
      | .error e => .error (.during (.runProgram name) e) t
      | .ok e =>
        let outcome := inChild ((runner depthLimit).execute e (e.given ++ args.map ofText))
          (firstSession path t)
        match outcome with
        | .ok 0 s => .ok s.output s.world.files
        | .ok code s => .error (.exitCode name code (Text.lossy s.output.stderr)) s.world.files
        | .error _ s => .error (.killedBySignal name) s.world.files

end Shell

end NetReconcile
