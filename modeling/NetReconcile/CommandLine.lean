import NetReconcile.AgentConfig
import NetReconcile.Machine
import NetReconcile.Settings

/-!
# The command line

The program is called with the name of an activity: `setup` sets up the networks that a settings
file declares, and `configured` lists the interfaces that have a configuration file. Options say
where the configuration of the program is and how much is logged; they may stand before the activity
or after it, once on each side.

Arguments that do not fit end the program with the code 2, a failure with the code 1.

## Main definitions

* `Invocation`, `Invocation.ofArgs?`: what the arguments ask for.
* `Invocation.run`: does it on a machine.
-/

namespace NetReconcile

/-- What the program is to do. -/
inductive Task
  | setup (settings : FilePath)
  | configured
  deriving DecidableEq, Repr

/-- What the arguments of the program ask for. -/
structure Invocation where
  config : FilePath
  debug : Bool
  task : Task
  deriving DecidableEq, Repr

namespace Invocation

/-! ### Arguments -/

/-- Where the configuration of the program is unless another place is given. -/
def defaultConfig : FilePath :=
  ⟨"/etc/hostnet/config.yaml"⟩

/-- The options that have been read on one side of the activity. -/
structure Options where
  config : Option FilePath := none
  debug : Bool := false
  settings : Option FilePath := none

/-- What an argument is. -/
inductive Argument
  | word (text : String)
  /-- An option, and its value if that is part of the argument. -/
  | option (name : String) (value : Option String)

/-- Splits an argument. -/
def Argument.ofText (text : String) : Argument :=
  match text.toList with
  | '-' :: '-' :: cs =>
    match cs.dropWhile (· ≠ '=') with
    | '=' :: value =>
      .option (String.ofList (cs.takeWhile (· ≠ '='))) (some (String.ofList value))
    | _ => .option (String.ofList cs) none
  | '-' :: _ :: _ => .option text none
  | _ => .word text

/-- The value of an option: what stands in its own argument, or else the next argument, unless that
is an option. It is not empty. -/
def optionValue? (value : Option String) (rest : List String) : Option (FilePath × List String) :=
  match value, rest with
  | some v, rest => if v = "" then none else some (⟨v⟩, rest)
  | none, next :: rest =>
    match Argument.ofText next with
    | .word v => if v = "" then none else some (⟨v⟩, rest)
    | .option .. => none
  | none, [] => none

/-- Reads options up to the first word. `inSetup` says whether the settings may be given. -/
def readOptions? (inSetup : Bool) : Nat → Options → List String →
    Option (Options × Option (String × List String))
  | 0, _, _ => none
  | _ + 1, o, [] => some (o, none)
  | fuel + 1, o, arg :: rest =>
    match Argument.ofText arg with
    | .word w => some (o, some (w, rest))
    | .option "debug" none =>
      if o.debug then none else readOptions? inSetup fuel { o with debug := true } rest
    | .option "config" value => do
      if o.config.isSome then none
      let (path, rest) ← optionValue? value rest
      readOptions? inSetup fuel { o with config := some path } rest
    | .option "settings" value => do
      if !inSetup || o.settings.isSome then none
      let (path, rest) ← optionValue? value rest
      readOptions? inSetup fuel { o with settings := some path } rest
    | .option "" none => if rest.isEmpty then some (o, none) else none
    | .option .. => none

/-- Reads options to the end of the arguments. -/
def readAll? (inSetup : Bool) (args : List String) : Option Options :=
  match readOptions? inSetup (args.length + 1) {} args with
  | some (o, none) => some o
  | _ => none

/-- What arguments ask for. `none` if they do not fit. -/
def ofArgs? (args : List String) : Option Invocation := do
  match ← readOptions? false (args.length + 1) {} args with
  | (_, none) => none
  | (before, some (word, rest)) =>
    let after ← readAll? (word = "setup") rest
    let config := (after.config.or before.config).getD defaultConfig
    let debug := before.debug || after.debug
    match word with
    | "setup" => return ⟨config, debug, .setup (← after.settings)⟩
    | "configured" => return ⟨config, debug, .configured⟩
    | _ => none

/-! ### Running -/

/-- Why the program fails. -/
inductive Failure
  | config (path : FilePath) (cause : ConfigError)
  | settings (cause : SettingsError)
  | network (cause : NetworkError)
  /-- The announcements ended without an outcome. -/
  | noOutcome

/-- The wording of a failure. The cause of a derivation error is given after the error, which names
it already. -/
def Failure.message : Failure → String
  | config path cause => s!"unable to load {path.text}: {cause.message}"
  | settings cause => cause.message
  | network (.derivation cause) =>
    (NetworkError.derivation cause).message ++ ": " ++ cause.message
  | network cause => cause.message
  | noOutcome => "broadcast task exited without a result"

/-- Which records are kept. -/
def threshold (i : Invocation) (config : AgentConfig) : Threshold :=
  .upTo (if i.debug then .debug else config.logLevel.level)

/-- Sets up the networks of a settings file. -/
def setUp (config : AgentConfig) (settings : FilePath) :
    EStateM Failure Machine (List String) := do
  let networks ← match Settings.ofFile settings (← get).files with
    | .ok networks => pure networks
    | .error e => throw (.settings e)
  let outcome ← modifyGet (config.manager.setup networks .awaited)
  match outcome.result with
  | .error e => throw (.network e)
  | .ok () =>
    modify (Machine.report .configured)
    match outcome.delivered with
    | none => throw .noOutcome
    | some (.error e) => throw (.network e)
    | some (.ok ()) =>
      modify (Machine.report .addressesAnnounced)
      return []

/-- Does what is asked for under a configuration. The answer is the lines to print. -/
def perform (i : Invocation) (config : AgentConfig) : EStateM Failure Machine (List String) :=
  match i.task with
  | .setup settings => setUp config settings
  | .configured => EStateM.adaptExcept .network config.manager.configured

/-- What came of running the program. -/
structure Report where
  exitCode : Nat
  /-- The lines printed. -/
  lines : List String
  /-- The events reported that the threshold keeps. -/
  events : List Event
  failure : Option Failure
  files : FileTree

/-- Runs the program on a file tree. -/
def run (i : Invocation) (searchPath : List FilePath) (files : FileTree) : Report :=
  match AgentConfig.ofFile i.config (files.readText i.config) with
  | .error e => ⟨1, [], [], some (.config i.config e), files⟩
  | .ok config =>
    let kept (m : Machine) : List Event :=
      m.events.filter fun e ↦ (i.threshold config).keeps e.level
    match i.perform config { files, searchPath, announcer := config.announcer } with
    | .ok lines m => ⟨0, lines, kept m, none, m.files⟩
    | .error e m => ⟨1, [], kept m, some e, m.files⟩

/-- The files that the program may look at, given the names of interfaces. What makes an interface
physical is a directory; a file in it stands for it. -/
def filesOf (i : Invocation) (config : AgentConfig) (interfaces : List String) : List FilePath :=
  let settings :=
    match i.task with
    | .setup settings => [settings]
    | .configured => []
  settings ++ [i.config, config.paths.dhclientConf, config.paths.resolvConf] ++
    interfaces.flatMap fun name ↦
      let dir := config.sysClassNet.join name
      [dir.join "address", dir.join "device/uevent", config.paths.ifcfg name]

/-- The last line of a program that fails. -/
def Failure.line (f : Failure) : String :=
  "hostnet: " ++ f.message

end Invocation

end NetReconcile
