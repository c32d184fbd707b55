/-!
# Shell scripts

A script is read and run line by line. A line holds commands, a command is made up of words and of
other commands, and a word of pieces, some of which are replaced when the command is run and may
hold commands themselves.

## Main definitions

* `Piece`: a piece of a word; `Use`: how a parameter is used in one.
* `Redirect`: where a stream of a command leads.
* `Command`: what a script can do.
-/

namespace NetReconcile.Shell

/-- What a parameter without a value leads to. -/
inductive Absence
  /-- A word stands in for it. -/
  | substitute
  /-- A word becomes its value. -/
  | assign
  /-- A word is the message with which the script ends. -/
  | refuse
  /-- Nothing does, but a word stands in for any value that there is. -/
  | keep
  deriving DecidableEq, Repr

/-- What a file is opened for. -/
inductive OpenMode
  | read
  | write
  | append
  | both
  deriving DecidableEq, Repr

mutual

/-- A piece of a word. Between quotes, what a piece stands for is neither split nor a pattern. A
quoted text may be empty, and makes the word one that is there. -/
inductive Piece
  | text (cs : List Char) (isQuoted : Bool)
  | parameter (name : String) (use : Use) (isQuoted : Bool)
  /-- What a command writes. -/
  | output (body : Option Command) (isQuoted : Bool)
  | arithmetic (w : List Piece) (isQuoted : Bool)

/-- How a parameter is used. -/
inductive Use
  | value
  | length
  /-- With something that happens if the parameter is not set, or if it is empty as well. -/
  | orElse (absence : Absence) (orEmpty : Bool) (w : List Piece)
  /-- Without a start or an end that fits a pattern. -/
  | without (atEnd isLongest : Bool) (w : List Piece)
  | unknown

/-- Where a stream of a command leads. -/
inductive Redirect
  | file (stream : Nat) (mode : OpenMode) (target : List Piece)
  /-- Where another stream leads, or nowhere. -/
  | duplicate (stream : Nat) (source : List Piece)
  /-- A text that the script holds, by its number. -/
  | document (stream : Nat) (index : Nat)

/-- What a script can do. -/
inductive Command
  /-- Runs a program, or something that the shell does itself, or only assigns. -/
  | simple (line : Nat) (assignments : List (String × List Piece)) (words : List (List Piece))
      (redirects : List Redirect)
  /-- Runs a command in a shell of its own. -/
  | subshell (line : Nat) (body : Option Command) (redirects : List Redirect)
  | redirected (line : Nat) (body : Option Command) (redirects : List Redirect)
  /-- Runs commands each of which reads what the one before it writes. -/
  | pipe (parts : List Command)
  | background (body : Command)
  | negated (body : Command)
  | both (first second : Command)
  | either (first second : Command)
  | sequence (first second : Command)
  | conditional (test body : Option Command) (otherwise : Option Command)
  | loop (isUntil : Bool) (test body : Option Command)
  /-- Runs a command for each of some words. -/
  | each (line : Nat) (name : String) (words : List (List Piece)) (body : Option Command)
  /-- Runs the first command that has a pattern which a word fits. -/
  | choice (line : Nat) (subject : List Piece)
      (branches : List (List (List Piece) × Option Command))
  | definition (name : String) (body : Command)

end

/-- A word of a command. -/
abbrev Word :=
  List Piece

instance : Inhabited Command :=
  ⟨.simple 1 [] [] []⟩

/-- Joins texts that stand next to each other. -/
def joinTexts : Word → Word
  | [] => []
  | .text cs q :: ps =>
    match joinTexts ps with
    | .text ds r :: rest =>
      if q = r then .text (cs ++ ds) q :: rest else .text cs q :: .text ds r :: rest
    | rest => .text cs q :: rest
  | p :: ps => p :: joinTexts ps

/-- The text that a word is, if it is only that and has no quotes. -/
def literal? : Word → Option String
  | [.text cs false] => some (String.ofList cs)
  | _ => none

/-- A word that consists of a text. -/
def wordOf (text : String) : Word :=
  [.text text.toList false]

end NetReconcile.Shell
