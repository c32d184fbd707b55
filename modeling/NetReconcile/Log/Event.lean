import NetReconcile.HostError
import NetReconcile.Log.Level
import NetReconcile.NetworkError
import NetReconcile.Text.Quoted

/-!
# What the program reports while it works

Every record of the log is an event with a meaning. The level, the reporting part and the wording of
an event are fixed by what happened. Events that are only of interest when the program itself is
examined are not recorded.
-/

namespace NetReconcile

/-- The part of the program that reports an event. -/
inductive Reporter
  | program
  | inventory
  | manager
  | materializer
  | announcer
  deriving DecidableEq, Repr

/-- The name of a part in records. -/
def Reporter.target : Reporter → String
  | program => "hostnet"
  | inventory => "hostnet::inventory"
  | manager => "hostnet::manager"
  | materializer => "hostnet::materialize"
  | announcer => "hostnet::arp"

/-- Something that the program reports. -/
inductive Event
  /-- The hardware address of a physical interface could not be read. -/
  | macUnreadable (interface : String) (cause : HostError)
  /-- Two physical interfaces report one hardware address; the first keeps it. -/
  | sharedMac (first second mac : String)
  /-- No interface of this host has the hardware address of a network. -/
  | networkSkipped (mac network : String)
  | fileUpdated (path : FilePath)
  | restarting (command : List String)
  | restartFailed (cause : HostError)
  | unchanged
  /-- The announcements ended, but whoever asked for their outcome is gone. -/
  | outcomeUnclaimed
  /-- The announcements failed, and nobody had asked for their outcome. -/
  | broadcastFailed (cause : NetworkError)
  | announced (ip : IPv4) (interface : String)
  | announceFailed (interface : String) (cause : HostError)
  /-- The configuration is in place and only announcements are outstanding. -/
  | configured
  | addressesAnnounced
  deriving DecidableEq

namespace Event

/-- Who reports an event. -/
def reporter : Event → Reporter
  | macUnreadable .. | sharedMac .. => .inventory
  | networkSkipped .. | restarting .. | restartFailed .. | unchanged | outcomeUnclaimed
  | broadcastFailed .. => .manager
  | fileUpdated .. => .materializer
  | announced .. | announceFailed .. => .announcer
  | configured | addressesAnnounced => .program

/-- How grave an event is. -/
def level : Event → Level
  | restartFailed .. | broadcastFailed .. | announceFailed .. => .error
  | macUnreadable .. | sharedMac .. | outcomeUnclaimed => .warn
  | networkSkipped .. | fileUpdated .. | restarting .. | unchanged | announced .. | configured
  | addressesAnnounced => .info

/-- The wording of an event. -/
def message : Event → String
  | macUnreadable interface cause =>
    s!"Unable to read MAC address of {interface}: {cause.message}"
  | sharedMac first second mac =>
    s!"Interfaces {first} and {second} share MAC {mac}, using {first}"
  | networkSkipped mac network =>
    s!"No interface has MAC {mac}, skipping network {network}"
  | fileUpdated path => s!"Updated {path.text}"
  | restarting command => "Restarting networking with " ++ Text.quotedList command
  | restartFailed cause => s!"Unable to restart networking: {cause.message}"
  | unchanged => "Network configuration is unchanged"
  | outcomeUnclaimed => "Nobody is waiting for the broadcast result"
  | broadcastFailed cause => cause.message
  | announced ip interface => s!"Announced {ip.text} on {interface}"
  | announceFailed interface cause => s!"Failed to announce {interface}: {cause.message}"
  | configured => "Networking configured, waiting for address announcements"
  | addressesAnnounced => "Addresses announced"

end Event

end NetReconcile
