/-!
# Errors of the operating system

The errors with which a system call on files can fail here, with their numbers and texts.
-/

namespace NetReconcile

/-- An error of a system call. -/
inductive Errno
  | noEntry
  | permissionDenied
  | entryExists
  | notDirectory
  | isDirectory
  | invalidArgument
  | execFormat
  | nameTooLong
  | notEmpty
  | tooManyLinks
  | busy
  deriving DecidableEq, Repr

namespace Errno

/-- The number of an error. -/
def code : Errno → Nat
  | noEntry => 2
  | execFormat => 8
  | permissionDenied => 13
  | busy => 16
  | entryExists => 17
  | notDirectory => 20
  | isDirectory => 21
  | invalidArgument => 22
  | nameTooLong => 36
  | notEmpty => 39
  | tooManyLinks => 40

/-- What an error means. -/
def meaning : Errno → String
  | noEntry => "No such file or directory"
  | execFormat => "Exec format error"
  | permissionDenied => "Permission denied"
  | busy => "Device or resource busy"
  | entryExists => "File exists"
  | notDirectory => "Not a directory"
  | isDirectory => "Is a directory"
  | invalidArgument => "Invalid argument"
  | nameTooLong => "File name too long"
  | notEmpty => "Directory not empty"
  | tooManyLinks => "Too many levels of symbolic links"

/-- The text of an error in a message. -/
def message (e : Errno) : String :=
  s!"{e.meaning} (os error {e.code})"

end Errno

end NetReconcile
