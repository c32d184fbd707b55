import NetReconcile.Announce.Basic
import NetReconcile.Setup
import NetReconcile.Yaml.Node

/-!
# The configuration of the program

How the program works on its host is configured in YAML, as a mapping. Every key may be left out,
and a text without contents leaves out all of them. Unknown keys are passed over, with any value
that can be told; no known key may stand twice. Texts are taken from any scalar; a number has to be
a plain one.

A configuration can only be used if there is a command to restart the network service with, if
addresses are sent at least once, and if the level of the log is known. These conditions are part of
the type `AgentConfig`.

## Main definitions

* `AgentConfig`: the configuration, with the values of keys that are left out.
* `AgentConfig.ofText`: reads a configuration.
* `AgentConfig.announcer`, `AgentConfig.manager`: what it is used for.
-/

namespace NetReconcile

/-- How the program works on its host. -/
structure AgentConfig where
  logLevel : LevelName := .info
  paths : ConfigPaths := {}
  /-- The directory in which existing interfaces have an entry. -/
  sysClassNet : FilePath := ⟨"/sys/class/net"⟩
  restartCommand : List String := ["service", "network", "restart"]
  arpingIterations : UInt32 := 6
  arpingIntervalMs : UInt64 := 5000
  interfaceWaitAttempts : UInt32 := 20
  restartCommand_ne_nil : restartCommand ≠ [] := by decide
  arpingIterations_pos : 0 < arpingIterations := by decide

/-- Why there is no configuration. -/
inductive ConfigError
  /-- The text is no mapping, or a value is of the wrong kind. -/
  | unreadable
  | emptyRestartCommand
  | noIterations
  | unknownLevel (name : String)
  /-- The file cannot be read. -/
  | file (path : FilePath) (cause : HostError)
  deriving DecidableEq

/-- The wording of an error. -/
def ConfigError.message : ConfigError → String
  | unreadable => "unable to parse agent config"
  | emptyRestartCommand => "restart-command cannot be empty"
  | noIterations => "arping-iterations must be at least 1"
  | unknownLevel name => s!"invalid log level {name}"
  | file path cause => s!"unable to read {Text.quoted path.text}: {cause.message}"

namespace AgentConfig

/-! ### Reading -/

open Yaml (Node)

/-- The text of a scalar. -/
def text? : Node → Option String
  | .scalar _ text => some text
  | _ => none

/-- A path, which is the text of a scalar. -/
def path? (node : Node) : Option FilePath :=
  (text? node).map FilePath.mk

/-- The number below a bound that a plain scalar stands for. -/
def number? (bound : Nat) : Node → Option Nat
  | .scalar true text => Text.count? bound text
  | _ => none

/-- The texts of a sequence of scalars. -/
def texts? : Node → Option (List String)
  | .sequence items => items.mapM text?
  | _ => none

/-- The entries of a mapping whose keys are scalars. -/
def entries? : Node → Option (List (String × Node))
  | .mapping entries => entries.mapM fun (key, value) ↦ (text? key).map (·, value)
  | _ => none

/-- The value of a key that stands at most once. -/
def value? {α : Type} (entries : List (String × Node)) (key : String) (read : Node → Option α)
    (default : α) : Option α :=
  match entries.filter (·.1 = key) with
  | [] => some default
  | [(_, node)] => read node
  | _ => none

/-- The keys that have a meaning. -/
def keys : List String :=
  ["log-level", "ifcfg-dir", "dhclient-conf", "dhclient-dir", "resolv-conf", "sys-class-net",
    "restart-command", "arping-iterations", "arping-interval-ms", "interface-wait-attempts"]

/-- Whether the values of all unknown keys can be passed over. -/
def arePassable (entries : List (String × Node)) : Bool :=
  entries.all fun (key, node) ↦ key ∈ keys || node.isPresentable

/-- The values of all keys, before they are checked. -/
structure Values where
  logLevel : String
  paths : ConfigPaths
  sysClassNet : FilePath
  restartCommand : List String
  arpingIterations : UInt32
  arpingIntervalMs : UInt64
  interfaceWaitAttempts : UInt32

/-- Reads the values of all keys. -/
def values? (node : Node) : Option Values := do
  let es ← entries? node
  if !arePassable es then none
  let default : AgentConfig := {}
  return {
    logLevel := ← value? es "log-level" text? default.logLevel.text
    paths := {
      ifcfgDir := ← value? es "ifcfg-dir" path? default.paths.ifcfgDir
      dhclientConf := ← value? es "dhclient-conf" path? default.paths.dhclientConf
      dhclientDir := ← value? es "dhclient-dir" path? default.paths.dhclientDir
      resolvConf := ← value? es "resolv-conf" path? default.paths.resolvConf }
    sysClassNet := ← value? es "sys-class-net" path? default.sysClassNet
    restartCommand := ← value? es "restart-command" texts? default.restartCommand
    arpingIterations := .ofNat
      (← value? es "arping-iterations" (number? UInt32.size) default.arpingIterations.toNat)
    arpingIntervalMs := .ofNat
      (← value? es "arping-interval-ms" (number? UInt64.size) default.arpingIntervalMs.toNat)
    interfaceWaitAttempts := .ofNat
      (← value? es "interface-wait-attempts" (number? UInt32.size)
        default.interfaceWaitAttempts.toNat) }

/-- Checks values. -/
def Values.check (v : Values) : Except ConfigError AgentConfig :=
  if hc : v.restartCommand = [] then .error .emptyRestartCommand
  else if hi : 0 < v.arpingIterations then
    match LevelName.ofText? v.logLevel with
    | none => .error (.unknownLevel v.logLevel)
    | some logLevel =>
      .ok { v with logLevel, restartCommand_ne_nil := hc, arpingIterations_pos := hi }
  else .error .noIterations

/-- Reads a configuration. -/
def ofText (text : String) : Except ConfigError AgentConfig :=
  if Text.trim text = "" then .ok {}
  else
    match (Node.ofText? text).bind values? with
    | none => .error .unreadable
    | some values => values.check

/-- Reads a configuration from what came of reading its file. A file that does not exist leaves out
all keys. -/
def ofFile (path : FilePath) : Except HostError String → Except ConfigError AgentConfig
  | .ok text => ofText text
  | .error (.system .noEntry) => .ok {}
  | .error e => .error (.file path e)

/-! ### Use -/

/-- How announcements are made under a configuration. -/
def announcer (c : AgentConfig) : Announcer where
  sysClassNet := c.sysClassNet
  iterations := c.arpingIterations.toNat
  intervalMs := c.arpingIntervalMs.toNat
  waitAttempts := c.interfaceWaitAttempts

/-- How the network is set up under a configuration. -/
def manager (c : AgentConfig) : NetworkManager where
  paths := c.paths
  restartCommand := c.restartCommand

end AgentConfig

end NetReconcile
