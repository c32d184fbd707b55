import NetReconcile.Address.Basic
import NetReconcile.Errno
import NetReconcile.FilePath
import NetReconcile.Text.Blank

/-!
# Why an operation on a host failed

A failure has a cause of its own and, around it, the activities in which it arose, outermost first.
Its message is all of them in that order, with a colon between them. `Activity.text` and
`HostError.message` are the only places that word them.
-/

namespace NetReconcile

/-- What was being done when something failed. -/
inductive Activity
  | readFile (path : FilePath)
  | writeFile (path : FilePath)
  | createFile (path : FilePath)
  | createDirectory (path : FilePath)
  | renameFile (source target : FilePath)
  | removeEntry (path : FilePath)
  /-- Making one path a link to another, or wanting to. -/
  | linkPaths (first second : FilePath)
  | openPath (path : FilePath)
  | openDirectory (path : FilePath)
  | listDirectory (path : FilePath)
  | resolveAddress (interface : String)
  | announce (ip : IPv4) (interface : String)
  | runProgram (program : String)
  | readAddressTable
  /-- An activity that is described by the host itself. -/
  | described (text : String)
  deriving DecidableEq

/-- The wording of an activity that failed. -/
def Activity.text : Activity → String
  | readFile path => s!"unable to read {path.text}"
  | writeFile path => s!"unable to write {path.text}"
  | createFile path => s!"unable to create {path.text}"
  | createDirectory path => s!"unable to create directory {path.text}"
  | renameFile source target => s!"unable to rename {source.text} to {target.text}"
  | removeEntry path => s!"unable to remove {path.text}"
  | linkPaths first second => s!"unable to link {first.text} to {second.text}"
  | openPath path => s!"unable to open {path.text}"
  | openDirectory path => s!"unable to open directory {path.text}"
  | listDirectory path => s!"unable to read from directory {path.text}"
  | resolveAddress interface => s!"unable to resolve address of {interface}"
  | announce ip interface => s!"unable to announce {ip.text} on {interface}"
  | runProgram program => s!"unable to run {program}"
  | readAddressTable => "unable to read interface addresses"
  | described text => text

/-- Why an operation failed. -/
inductive HostError
  /-- A failure that the host itself words. -/
  | reported (message : String)
  | system (errno : Errno)
  | nulInFileName
  | nulInCommand
  | notUtf8
  | invalidPath (path : FilePath)
  | missingFile (path : FilePath)
  | missingNameservers (servers : List IpAddress) (path : FilePath)
  | missingAddresses (expected : List (String × IPv4))
  | interfaceAbsent (interface : String) (attempts : Nat)
  | noIPv4 (interface : String)
  | emptyCommand
  | exitCode (program : String) (code : Nat) (stderr : String)
  | killedBySignal (program : String)
  /-- A failure inside an activity. -/
  | during (activity : Activity) (cause : HostError)
  deriving DecidableEq

/-- The wording of a failure. -/
def HostError.message : HostError → String
  | reported message => message
  | system errno => errno.message
  | nulInFileName => "file name contained an unexpected NUL byte"
  | nulInCommand => "nul byte found in provided data"
  | notUtf8 => "stream did not contain valid UTF-8"
  | invalidPath path => s!"invalid path {path.text}"
  | missingFile path => s!"{path.text} does not exist"
  | missingNameservers servers path =>
    "nameservers " ++ ", ".intercalate (servers.map (·.text)) ++ s!" not found in {path.text}"
  | missingAddresses expected =>
    "addresses not present on host: " ++
      ", ".intercalate (expected.map fun (device, ip) ↦ s!"{ip.text} on {device}")
  | interfaceAbsent interface attempts =>
    s!"interface {interface} did not appear after {attempts} attempts"
  | noIPv4 interface => s!"no IPv4 address found on interface {interface}"
  | emptyCommand => "empty command"
  | exitCode program code stderr =>
    s!"{program} failed with exit code {code}: {Text.trim stderr}"
  | killedBySignal program => s!"{program} terminated by signal"
  | during activity cause => activity.text ++ ": " ++ cause.message

end NetReconcile
