import NetReconcile.Shell.Expansion
import NetReconcile.Shell.Program
import NetReconcile.Shell.Script.OfText

/-!
# What a shell does by itself

Some names stand for what a shell does without running a program, most of it about its own state.
Some of them are special: what goes wrong with them ends a script. Here are those that run no other
commands.

## Main definitions

* `numberOf`: the numbers that they take.
* `Signal`: the signals, by number and name.
* `builtin?`: what a name stands for.
-/

namespace NetReconcile

namespace Shell

/-- The number that an argument spells: not negative, and not too large. -/
def numberArg (arg : String) : Act Nat := do
  match readWhole true arg.toList with
  | some (n, rest) =>
    if rest.all isSpace && 0 ≤ n && n ≤ Int32.maxValue.toInt then return n.toNat
    else giveUp s!"Illegal number: {arg}"
  | none => giveUp s!"Illegal number: {arg}"

/-- Takes the options of what a shell does by itself off its arguments. -/
def shellOptions (allowed : List Char) : List String → Act (List Char × List String)
  | [] => return ([], [])
  | arg :: rest =>
    match arg.toList with
    | ['-', '-'] => return ([], rest)
    | '-' :: c :: cs => do
      if let some unknown := (c :: cs).find? (· ∉ allowed) then
        giveUp s!"Illegal option -{unknown}"
      let (more, rest) ← shellOptions allowed rest
      return (c :: cs ++ more, rest)
    | _ => return ([], arg :: rest)

/-! ### Signals -/

/-- The names of signals, from number one on. Some have only their number. -/
def signalNames : List String :=
  ["HUP", "INT", "QUIT", "ILL", "TRAP", "ABRT", "BUS", "FPE", "KILL", "USR1", "SEGV", "USR2",
    "PIPE", "ALRM", "TERM", "16", "CHLD", "CONT", "STOP", "TSTP", "TTIN", "TTOU", "URG", "XCPU",
    "XFSZ", "VTALRM", "PROF", "WINCH", "IO", "PWR", "SYS", "32", "33", "RTMIN"] ++
    (List.range 15).map (fun n ↦ s!"RTMIN+{n + 1}") ++
    (List.range 14).map (fun n ↦ s!"RTMAX-{14 - n}") ++ ["RTMAX"]

/-- What is said of a program that a signal has ended, from number one on. -/
def signalMeanings : List String :=
  ["Hangup", "Interrupt", "Quit", "Illegal instruction", "Trace/breakpoint trap", "Aborted",
    "Bus error", "Floating point exception", "Killed", "User defined signal 1",
    "Segmentation fault", "User defined signal 2", "Broken pipe", "Alarm clock", "Terminated",
    "Stack fault", "Child exited", "Continued", "Stopped (signal)", "Stopped",
    "Stopped (tty input)", "Stopped (tty output)", "Urgent I/O condition",
    "CPU time limit exceeded", "File size limit exceeded", "Virtual timer expired",
    "Profiling timer expired", "Window changed", "I/O possible", "Power failure",
    "Bad system call", "Unknown signal 32", "Unknown signal 33"] ++
    (List.range 31).map (fun n ↦ s!"Real-time signal {n}")

/-- The name of a signal. Zero stands for the end of a shell. -/
def signalName? : Nat → Option String
  | 0 => some "EXIT"
  | n + 1 => signalNames[n]?

/-- The number of a signal that an argument spells, by its number or by its name. -/
def signalOf? (arg : String) : Option Nat :=
  match Text.digits? 10 arg.toList with
  | some n => if n ≤ signalNames.length then some n else none
  | none => (signalNames.idxOf? (arg.map Char.toUpper)).map (· + 1)

/-- The number of a signal or of the end of a shell that an argument spells. -/
def eventOf? (arg : String) : Option Nat :=
  if arg.map Char.toUpper = "EXIT" then some 0 else signalOf? arg

/-- The signals that end no program. -/
def harmlessSignals : List String :=
  ["CHLD", "CONT", "URG", "WINCH"]

/-- Lets a signal arrive at the process that runs a script. -/
def raise (i : Inner) (process signal : Nat) : Act Nat := do
  let s ← get
  let name := (signalName? signal).getD ""
  match s.traps.lookup name with
  | some action =>
    if name = "KILL" then throw (.killed process signal)
    if action ≠ "" && process = s.process then
      let status := s.status
      discard (during none (i.script true action))
      modify fun s ↦ { s with status }
    return 0
  | none =>
    if signal = 0 || name ∈ harmlessSignals then return 0
    throw (.killed process signal)

/-- How `kill` is used. -/
def killUsage : String :=
  "Usage: kill [-s sigspec | -signum | -sigspec] [pid | job]... or\nkill -l [exitstatus]"

/-- Shows the names of signals, or of the one that a status stands for. -/
def listSignals : List String → Act Nat
  | [] => do
    put (String.join (("0" :: signalNames).map (· ++ "\n")))
    return 0
  | arg :: _ => do
    let n ← numberArg arg
    let signal := if 128 < n then n - 128 else n
    match if signal = 0 then none else signalName? signal with
    | some name =>
      put (name ++ "\n")
      return 0
    | none => giveUp s!"invalid signal number or exit status: {n}"

/-- Sends a signal to processes. Those that there are run a script that waits for this one. -/
def send (i : Inner) (signal : Nat) (targets : List String) : Act Nat := do
  if targets.isEmpty then giveUp killUsage
  let outcomes ← targets.mapM fun target ↦ do
    if target.startsWith "%" then giveUp s!"No such job: {target}"
    let isGroup := target.startsWith "-"
    let n ← numberArg (if isGroup then String.ofList (target.toList.drop 1) else target)
    if !isGroup && firstProcess ≤ n && n ≤ (← get).world.latest then
      if signal ≠ 0 then discard (raise i n signal)
      return true
    else
      complain "No such process\n"
      return false
  return if outcomes.all id then 0 else 1

/-- What `kill` is asked for. -/
structure Sending where
  /-- Whether names are to be shown. -/
  isList : Bool := false
  signal : Nat := 15
  targets : List String := []

/-- Takes the options of `kill` off its arguments. -/
def killOptions : Nat → Sending → Act Sending
  | 0, k => return k
  | fuel + 1, k => do
    match k.targets.map String.toList with
    | ['-', '-'] :: _ => return { k with targets := k.targets.tail }
    | ['-'] :: _ => return k
    | ('-' :: 's' :: value) :: _ =>
      let rest := k.targets.tail
      match if value.isEmpty then rest else String.ofList value :: rest with
      | [] => giveUp "No arg for -s option"
      | name :: targets =>
        let some signal := signalOf? name | giveUp s!"invalid signal number or name: {name}"
        killOptions fuel { k with signal, targets }
    | ('-' :: 'l' :: more) :: _ =>
      let rest := k.targets.tail
      let targets := if more.isEmpty then rest else String.ofList ('-' :: more) :: rest
      killOptions fuel { k with isList := true, targets }
    | ('-' :: c :: _) :: _ => giveUp s!"Illegal option -{c}"
    | _ => return k

/-- Sends signals, or shows their names. -/
def kill (i : Inner) (args : List String) : Act Nat := do
  let first := (args.headD "").toList
  match if first.head? = some '-' then signalOf? (String.ofList first.tail) else none with
  | some signal => send i signal args.tail
  | none =>
    if args.isEmpty then giveUp killUsage
    let k ← killOptions (String.join args).length { targets := args }
    if k.isList then listSignals k.targets else send i k.signal k.targets

/-- Sets what is done when signals arrive, or shows it. -/
def trap (args : List String) : Act Nat := do
  match if args.head? = some "--" then args.tail else args with
  | [] =>
    let order (e : String × String) : Nat := (eventOf? e.1).getD 0
    ((← get).traps.mergeSort fun a b ↦ order a ≤ order b).forM fun (name, action) ↦
      put s!"trap -- {quoted action} {name}\n"
    return 0
  | first :: rest =>
    let isReset := first = "-" || rest.isEmpty || (Text.digits? 10 first.toList).isSome
    let names := if isReset && first ≠ "-" then first :: rest else rest
    let outcomes ← names.mapM fun name ↦ do
      match (eventOf? name).bind signalName? with
      | some signal =>
        modify fun s ↦
          let others := s.traps.filter (·.1 ≠ signal)
          { s with traps := if isReset then others else others ++ [(signal, first)] }
        return true
      | none =>
        say s!"trap: {name}: bad trap"
        return false
    return if outcomes.all id then 0 else 1
where
  /-- A text as a script would have to quote it. -/
  quoted (text : String) : String :=
    let parts := (text.toList.splitOn '\'').map String.ofList
    let marked := parts.map fun p ↦ if p = "" then "" else s!"'{p}'"
    if text = "" then "''" else (String.ofList ['"', '\'', '"']).intercalate marked

/-! ### Leaving -/

/-- Leaves the shell. -/
def exit : List String → Act Nat
  | [] => do throw (.ended (← get).status)
  | arg :: _ => do throw (.ended ((← numberArg arg) % 256))

/-- Leaves a function. -/
def leaveFunction : List String → Act Nat
  | [] => do throw (.returned (← get).status)
  | arg :: _ => do throw (.returned (← numberArg arg))

/-- Leaves loops, or goes on with one of them. -/
def leaveLoops (make : Nat → Flow) (args : List String) : Act Nat := do
  let wanted ←
    match args with
    | [] => pure 1
    | arg :: _ =>
      let n ← numberArg arg
      if n = 0 then giveUp s!"Illegal number: {arg}"
      pure n
  let depth := (← get).loopDepth
  if depth = 0 then return 0
  throw (make (min wanted depth))

/-! ### Parameters -/

/-- Drops arguments of the script. -/
def shift (args : List String) : Act Nat := do
  let n ←
    match args with
    | [] => pure 1
    | arg :: _ => numberArg arg
  if (← get).arguments.length < n then giveUp "can't shift that many"
  modify fun s ↦ { s with arguments := s.arguments.drop n }
  return 0

/-- The options of a shell, with their names. -/
def optionNames : List (String × Char) :=
  [("errexit", 'e'), ("noglob", 'f'), ("ignoreeof", 'I'), ("interactive", 'i'), ("monitor", 'm'),
    ("noexec", 'n'), ("stdin", 's'), ("xtrace", 'x'), ("verbose", 'v'), ("vi", 'V'),
    ("emacs", 'E'), ("noclobber", 'C'), ("allexport", 'a'), ("notify", 'b'), ("nounset", 'u'),
    ("privileged", 'p')]

/-- Shows which options are set, as a table or as commands that set them. -/
def showOptions (isTable : Bool) : Act Unit := do
  let isSet (name : String) : Act Bool :=
    match optionNames.lookup name with
    | some letter => hasOption letter
    | none => return false
  if isTable then put "Current option settings\n"
  (optionNames.map (·.1) ++ ["nolog", "debug"]).forM fun name ↦ do
    let isOn ← isSet name
    if isTable then
      let state := if isOn then "on" else "off"
      put (name ++ "".pushn ' ' (16 - name.length) ++ state ++ "\n")
    else
      let sign := if isOn then "-" else "+"
      put s!"set {sign}o {name}\n"

/-- Sets or clears an option. -/
def setOption (isSet : Bool) (letter : Char) : Act Unit :=
  modify fun s ↦
    let others := s.options.filter (· ≠ letter)
    { s with options := if isSet then others ++ [letter] else others }

/-- Sets or clears options by their letters. -/
def setLetters (isSet : Bool) (letters : List Char) : Act Unit :=
  letters.forM fun c ↦ do
    if optionNames.any (·.2 = c) then setOption isSet c
    else
      let sign := if isSet then '-' else '+'
      giveUp s!"Illegal option {sign}{c}"

/-- Sets options, and takes what is left as the arguments of the script, if there is any. -/
def setOptions : List String → Act Unit
  | [] => pure ()
  | arg :: rest => do
    match arg.toList with
    | ['-', '-'] => modify fun s ↦ { s with arguments := rest }
    | ['-'] =>
      setLetters false ['x', 'v']
      if !rest.isEmpty then modify fun s ↦ { s with arguments := rest }
    | sign :: c :: cs =>
      if sign = '-' || sign = '+' then
        match c :: cs, rest with
        | ['o'], name :: rest =>
          match optionNames.lookup name with
          | some letter => setOption (sign = '-') letter
          | none => giveUp s!"Illegal option -o {name}"
          setOptions rest
        | ['o'], [] => showOptions (sign = '-')
        | letters, rest =>
          setLetters (sign = '-') (letters.filter (· ≠ 'o'))
          setOptions rest
      else modify fun s ↦ { s with arguments := arg :: rest }
    | _ => modify fun s ↦ { s with arguments := arg :: rest }

/-- Shows parameters with their values. -/
def showParameters (before : String) (ps : List (String × Parameter)) : Act Unit :=
  (ps.mergeSort fun a b ↦ a.1 ≤ b.1).forM fun (name, p) ↦
    match p.value with
    | some value => put s!"{before}{name}={trap.quoted value}\n"
    | none => put s!"{before}{name}\n"

/-- Sets options and arguments, or shows parameters. -/
def configure (args : List String) : Act Nat := do
  if args.isEmpty then
    showParameters "" ((← get).parameters.filter (·.2.value.isSome))
  setOptions args
  return 0

/-- Splits an argument into a name and a value, if it has one. -/
def splitAssignment (arg : String) : String × Option String :=
  let name := arg.toList.takeWhile (· ≠ '=')
  match arg.toList.drop name.length with
  | _ :: value => (String.ofList name, some (String.ofList value))
  | [] => (arg, none)

/-- Marks parameters, and gives them values where there are some. -/
def declare (mark : Parameter → Parameter) (args : List String) : Act Unit :=
  args.forM fun arg ↦ do
    let (name, value) := splitAssignment arg
    if !isName name then giveUp s!"{name}: bad variable name"
    if let some value := value then assign name value
    let p := ((← parameter? name).getD { value := none })
    putParameter name (some (mark p))

/-- Marks parameters, or shows those that are marked. -/
def markParameters (word : String) (isMarked : Parameter → Bool) (mark : Parameter → Parameter)
    (args : List String) : Act Nat := do
  let (options, names) ← shellOptions ['p'] args
  if options.isEmpty && !names.isEmpty then declare mark names
  else showParameters (word ++ " ") ((← get).parameters.filter fun (_, p) ↦ isMarked p)
  return 0

/-- Removes parameters or functions. -/
def unset (args : List String) : Act Nat := do
  let (options, names) ← shellOptions ['f', 'v'] args
  names.forM fun name ↦ do
    if options.getLast? = some 'f' then
      modify fun s ↦ { s with functions := s.functions.filter (·.1 ≠ name) }
    else
      if !isName name then giveUp s!"{name}: bad variable name"
      checkWritable name
      putParameter name none
  return 0

/-- Covers a parameter as long as the function runs that is the innermost. -/
def cover (name : String) : Act Unit :=
  modify fun s ↦
    match s.covered with
    | [] => s
    | frame :: frames =>
      if frame.any (·.1 = name) then s
      else { s with covered := (frame ++ [(name, s.parameters.lookup name)]) :: frames }

/-- Covers parameters as long as a function runs. -/
def declareLocal (args : List String) : Act Nat := do
  if (← get).covered.isEmpty then giveUp "not in a function"
  args.forM fun arg ↦ do
    let (name, value) := splitAssignment arg
    if !isName name then giveUp s!"{name}: bad variable name"
    cover name
    if let some value := value then assign name value
  return 0

/-! ### Reading -/

/-- Reads a line, and joins it with the next one after a backslash. Characters after a backslash do
not separate. -/
def readLogical (isRaw : Bool) : Nat → Act (List Mark × Bool)
  | 0 => return ([], false)
  | fuel + 1 => do
    let (line, isEnded) ← takeLine 0
    let (ms, isOpen) := marksOfLine line.toList
    if isOpen && isEnded then
      let (more, isEnded) ← readLogical isRaw fuel
      return (ms ++ more, isEnded)
    else return (ms, isEnded)
where
  marksOfLine : List Char → List Mark × Bool
    | [] => ([], false)
    | ['\\'] => if isRaw then ([.char '\\' false true], false) else ([], true)
    | '\\' :: c :: cs =>
      if isRaw then
        let (ms, isOpen) := marksOfLine (c :: cs)
        (.char '\\' false true :: ms, isOpen)
      else
        let (ms, isOpen) := marksOfLine cs
        (.char c true false :: ms, isOpen)
    | c :: cs =>
      let (ms, isOpen) := marksOfLine cs
      (.char c false true :: ms, isOpen)

/-- Whether a mark is a blank at which texts are split. -/
def isBlankMark (separators : List Char) : Mark → Bool
  | .char c _ separates => separates && c ∈ separators && (c = ' ' || c = '\t' || c = '\n')
  | _ => false

/-- Whether a mark separates texts. -/
def isSeparator (separators : List Char) : Mark → Bool
  | .char c _ separates => separates && c ∈ separators
  | _ => false

/-- Splits the first text off marks, and what separates it from the rest. -/
def firstText (separators : List Char) (ms : List Mark) : List Mark × List Mark :=
  let text := ms.takeWhile (!isSeparator separators ·)
  let rest := (ms.drop text.length).dropWhile (isBlankMark separators)
  let isAfterBlank := (ms.drop text.length).head?.any (isBlankMark separators)
  match rest with
  | m :: more =>
    if isSeparator separators m && (isAfterBlank || rest.length = (ms.drop text.length).length) then
      (text, more.dropWhile (isBlankMark separators))
    else (text, m :: more)
  | [] => (text, [])

/-- Gives names the texts of a line. The last name gets all that is left. -/
def assignTexts (separators : List Char) (ms : List Mark) : List String → Act Unit
  | [] => pure ()
  | [name] => do
    let (text, rest) := firstText separators ms
    let whole := if rest.isEmpty then text else
      (ms.reverse.dropWhile (isBlankMark separators)).reverse
    assign name (textOf whole)
  | name :: names => do
    let (text, rest) := firstText separators ms
    assign name (textOf text)
    assignTexts separators rest names

/-- Reads a line into parameters. -/
def read (args : List String) : Act Nat := do
  let (options, names) ← shellOptions ['r', 'p'] args
  let names := if 'p' ∈ options then names.tail else names
  if names.isEmpty then giveUp "arg count"
  if let some name := names.find? (!isName ·) then giveUp s!"{name}: bad variable name"
  let (ms, isEnded) ← readLogical ('r' ∈ options) 1000
  let separators ← separators
  assignTexts separators (ms.dropWhile (isBlankMark separators)) names
  return if isEnded then 0 else 1

/-! ### Directories -/

/-- Changes the working directory. -/
def changeDirectory (args : List String) : Act Nat := do
  let (_, operands) ← shellOptions ['L', 'P'] args
  let target ←
    match operands with
    | [] => valueOrEmpty "HOME"
    | "-" :: _ => valueOrEmpty "OLDPWD"
    | dir :: _ => pure dir
  if target = "" then return 0
  let files := (← get).world.files
  let location :=
    match files.openPath (pathOf target) with
    | .ok loc =>
      match files.get? loc with
      | some (.directory _) => some loc
      | _ => none
    | .error _ => none
  match location with
  | none => giveUp s!"can't cd to {target}"
  | some loc =>
    let before ← workPath
    modify fun s ↦ { s with world.files := { files with workDir := loc } }
    putParameter "OLDPWD" (some { value := some before, isExported := true })
    putParameter "PWD" (some { value := some (← workPath), isExported := true })
    if operands.head? = some "-" then put ((← workPath) ++ "\n")
    return 0

/-! ### Writing -/

/-- Writes a text, and fails if it cannot be written. -/
def putChecked (text : String) : Act Nat := do
  if text = "" || (← write 1 text) then return 0
  let activity := (← get).activity.getD ""
  complain s!"{activity}: I/O error"
  return 1

/-- Writes a format with its arguments. -/
def printfInShell (args : List String) : Act Nat := do
  match (← shellOptions [] args).2 with
  | [] => giveUp "usage: printf format [arg ...]"
  | format :: rest =>
    let p := printf .shell format rest
    let status ← putChecked p.text
    p.messages.forM complain
    return if p.status = 0 then status else p.status

/-- Waits for what runs in the background, which has ended already. -/
def waitFor : List String → Act Nat
  | [] => return 0
  | arg :: _ => do
    let n ← numberArg arg
    let s ← get
    return if s.background = some n then s.backgroundStatus else 127

/-- What names stand for that run no other commands. -/
def builtin? (i : Inner) (name : String) : Option (List String → Act Nat) :=
  match name with
  | ":" | "true" => some fun _ ↦ return 0
  | "false" => some fun _ ↦ return 1
  | "echo" => some fun args ↦ putChecked (String.ofList (shellEcho args))
  | "printf" => some printfInShell
  | "test" | "[" => some (test .shell name)
  | "exit" => some exit
  | "return" => some leaveFunction
  | "break" => some (leaveLoops .left)
  | "continue" => some (leaveLoops .continued)
  | "shift" => some shift
  | "set" => some configure
  | "unset" => some unset
  | "export" => some (markParameters name (·.isExported) ({ · with isExported := true }))
  | "readonly" => some (markParameters name (·.isReadOnly) ({ · with isReadOnly := true }))
  | "local" => some declareLocal
  | "read" => some read
  | "cd" => some changeDirectory
  | "pwd" => some fun _ ↦ do putChecked ((← workPath) ++ "\n")
  | "umask" => some fun args ↦ do
    if args.isEmpty then putChecked "0022\n" else return 0
  | "kill" => some (kill i)
  | "trap" => some trap
  | "wait" => some waitFor
  | "hash" | "jobs" | "ulimit" | "times" => some fun _ ↦ return 0
  | _ => none

end Shell

end NetReconcile
