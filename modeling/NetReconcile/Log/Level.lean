import NetReconcile.Text.Blank

/-!
# Levels of the log

A record has a level, and the log has a threshold: records up to the threshold are kept. The
threshold `off` keeps none. Thresholds are ordered and numbered from `off` upwards, and levels are
numbered as the thresholds that just keep them.
-/

namespace NetReconcile

/-- How grave a record is. -/
inductive Level
  | error
  | warn
  | info
  | debug
  | trace
  deriving DecidableEq, Repr, Inhabited

/-- Up to which level records are kept. -/
inductive Threshold
  | off
  | upTo (level : Level)
  deriving DecidableEq, Repr

namespace Level

/-- All levels, the gravest first. -/
def all : List Level :=
  [error, warn, info, debug, trace]

/-- The number of a level; graver levels have smaller numbers. -/
def rank : Level → Nat
  | error => 1
  | warn => 2
  | info => 3
  | debug => 4
  | trace => 5

/-- The name of a level in records. -/
def name : Level → String
  | error => "ERROR"
  | warn => "WARN"
  | info => "INFO"
  | debug => "DEBUG"
  | trace => "TRACE"

/-- Reads the name of a level in letters of any case. -/
def ofName? (s : String) : Option Level :=
  all.find? fun l ↦ Text.lowerAscii l.name = Text.lowerAscii s

end Level

/-- A text that is the name of a level. -/
structure LevelName where
  text : String
  level : Level
  ofName?_text : Level.ofName? text = some level

namespace LevelName

/-- Reads the name of a level. -/
def ofText? (text : String) : Option LevelName :=
  match h : Level.ofName? text with
  | some level => some ⟨text, level, h⟩
  | none => none

/-- The name of the level at which the program logs unless it is told otherwise. -/
def info : LevelName :=
  ⟨"info", .info, by decide⟩

end LevelName

namespace Threshold

/-- The number of a threshold. -/
def rank : Threshold → Nat
  | off => 0
  | upTo l => l.rank

/-- The name of a threshold. -/
def name : Threshold → String
  | off => "OFF"
  | upTo l => l.name

/-- The threshold with a number; numbers above the last one stand for it. -/
def ofRank : Nat → Threshold
  | 0 => off
  | 1 => upTo .error
  | 2 => upTo .warn
  | 3 => upTo .info
  | 4 => upTo .debug
  | _ => upTo .trace

/-- Whether a log with this threshold keeps records of a level. -/
def keeps (t : Threshold) (l : Level) : Bool :=
  l.rank ≤ t.rank

theorem ofRank_rank (t : Threshold) : ofRank t.rank = t := by
  cases t with
  | off => rfl
  | upTo l => cases l <;> rfl

end Threshold

/-- The log of the program: its threshold, which starts at `info`. -/
structure Logger where
  threshold : Threshold := .upTo .info
  deriving DecidableEq, Repr

/-- A record as a line of the log, without the time at which it was made. -/
def recordText (level : Level) (target message : String) : String :=
  s!"[{level.name}] {target}: {message}"

/-- A record as a line of the log. -/
def formatRecord (timestamp : String) (level : Level) (target message : String) : String :=
  s!"{timestamp} {recordText level target message}"

end NetReconcile
