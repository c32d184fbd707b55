import NetReconcile.Shell.Arithmetic
import NetReconcile.Shell.Pattern
import NetReconcile.Shell.Session

/-!
# Words

A word of a command stands for any number of texts. Its pieces are replaced first: parameters by
their values, commands by what they write, arithmetic by its result. What has been replaced outside
quotes is split at separators, and a text that is a pattern stands for the files that fit it.

Until a word is split, it is a list of marks: characters, which know whether they are quoted and
whether they can separate, and what else decides where a text begins and ends.

## Main definitions

* `Inner`: what words and commands need for the commands and words inside them.
* `expandPieces`: the marks of a word.
* `splitMarks`: the texts of marks.
* `expandWord`, `expandText`: a word as texts, and as one text.
-/

namespace NetReconcile

namespace Shell

/-- A part of a word whose pieces have been replaced. -/
inductive Mark
  | char (c : Char) (isQuoted separates : Bool)
  /-- A text is there, even if it has no characters. -/
  | present
  /-- A text ends, and another begins. -/
  | gap
  deriving DecidableEq, Repr

/-- What words and commands need for the commands and words inside them. -/
structure Inner where
  /-- Runs a command. A failure that is tested does not end a script. -/
  run : (isTested : Bool) → Command → Act Nat
  expand : Word → Act (List Mark)
  /-- Runs a text. -/
  script : (isTested : Bool) → String → Act Nat

/-! ### Shells inside shells -/

/-- Lets a shell do what is to be done at its end. -/
def finish (i : Inner) (status : Nat) (s : Session) : EStateM.Result Flow Session Nat :=
  match s.traps.lookup "EXIT" with
  | none => .ok status s
  | some action =>
    let traps := s.traps.filter (·.1 ≠ "EXIT")
    match i.script false action { s with traps, status, activity := none } with
    | .error (.ended n) t | .error (.failed n) t => .ok n t
    | .error (.killed process signal) t => .error (.killed process signal) t
    | .ok _ t | .error _ t => .ok status t

/-- A shell that does something and ends. Whatever it is left for, that is its end, unless it is
killed. -/
def toEnd (i : Inner) (act : Act Nat) : Act Nat := fun s ↦
  match act s with
  | .ok status t | .error (.ended status) t | .error (.failed status) t
  | .error (.returned status) t => finish i status t
  | .error (.left _) t | .error (.continued _) t => finish i t.status t
  | .error (.killed process signal) t => .error (.killed process signal) t

/-- What a shell does that another one has started as a copy of itself. -/
def inSubshell (i : Inner) (act : Act Nat) : Act Nat :=
  inChild do
    modify fun s ↦ { s with traps := [], loopDepth := 0 }
    toEnd i act

/-- What a command writes, without the line breaks at its end. -/
def captured (i : Inner) (body : Option Command) : Act String := do
  let n ← newBuffer ""
  let status ← inSubshell i do
    setStream 1 (some (.buffer n))
    match body with
    | some c => i.run false c
    | none => return 0
  modify fun s ↦ { s with substituted := some status }
  let text := ((← get).world.buffers[n]?.getD "").toList.filter (· ≠ '\x00')
  return String.ofList (text.reverse.dropWhile (· = '\n')).reverse

/-! ### Parameters -/

/-- The value of a parameter that is not all arguments. -/
def value? (name : String) : Act (Option String) := do
  let s ← get
  match name with
  | "#" => return some (toString s.arguments.length)
  | "?" => return some (toString s.status)
  | "$" => return some (toString s.process)
  | "!" => return s.background.map toString
  | "-" => return some (String.ofList s.options)
  | "LINENO" => return some (toString s.line)
  | _ =>
    match Text.digits? 10 name.toList with
    | some n => return (s.name :: s.arguments)[n]?
    | none => valueOf? name

/-- Whether a parameter stands for all arguments. -/
def isAll (name : String) : Bool :=
  name = "@" || name = "*"

/-- A text as marks. What is not quoted can separate. -/
def marksOf (isQuoted : Bool) (text : String) : List Mark :=
  text.toList.map fun c ↦ .char c isQuoted (!isQuoted)

/-- All arguments as marks. Quoted, they are texts of their own, or one. -/
def argumentMarks (name : String) (isQuoted : Bool) : Act (List Mark) := do
  let args := (← get).arguments
  if !isQuoted then return [.gap].intercalate (args.map (marksOf false))
  else if name = "@" then
    return [.gap].intercalate (args.map fun a ↦ .present :: marksOf true a)
  else
    let between :=
      match (← valueOf? "IFS").map String.toList with
      | none => " "
      | some [] => ""
      | some (c :: _) => String.singleton c
    return marksOf true (between.intercalate args)

/-- Refuses a parameter that is not set, where that is asked for. -/
def checkSet (name : String) (value : Option String) : Act Unit := do
  if value.isNone && (← hasOption 'u') then giveUp s!"{name}: parameter not set"

/-- The characters of marks. -/
def textOf (ms : List Mark) : String :=
  String.ofList (ms.filterMap fun
    | .char c _ _ => some c
    | .present => none
    | .gap => some ' ')

/-- The characters of marks that are not texts of their own. -/
def glyphsOf (ms : List Mark) : List Glyph :=
  ms.filterMap fun
    | .char c q _ => some ⟨c, q⟩
    | .present => none
    | .gap => some ⟨' ', false⟩

/-- What a parameter is replaced by. -/
def parameterMarks (i : Inner) (name : String) (use : Use) (isQuoted : Bool) :
    Act (List Mark) := do
  if name = "" then giveUp "Bad substitution"
  let value ← if isAll name then pure none else value? name
  let args := (← get).arguments
  let plain : Act (List Mark) :=
    if isAll name then argumentMarks name isQuoted else pure (marksOf isQuoted (value.getD ""))
  let isAbsent (orEmpty : Bool) : Bool :=
    if isAll name then args.isEmpty || (orEmpty && args.all (· = ""))
    else value.isNone || (orEmpty && value = some "")
  match use with
  | .value =>
    if !isAll name then checkSet name value
    plain
  | .length =>
    if isAll name then return marksOf isQuoted (toString args.length)
    checkSet name value
    return marksOf isQuoted (toString (value.getD "").length)
  | .without atEnd isLongest w =>
    if !isAll name then checkSet name value
    let pattern := Pattern.ofGlyphs (glyphsOf (← i.expand w))
    let whole := (textOf (← plain)).toList
    let kept :=
      if atEnd then pattern.dropEnd isLongest whole else pattern.dropStart isLongest whole
    return marksOf isQuoted (String.ofList kept)
  | .orElse .substitute orEmpty w => if isAbsent orEmpty then i.expand w else plain
  | .orElse .keep orEmpty w => if isAbsent orEmpty then return [] else i.expand w
  | .orElse .assign orEmpty w =>
    if !isAbsent orEmpty then plain
    else
      let new := textOf (← i.expand w)
      if !name.toList.head?.any Expr.startsName then giveUp s!"{name}: bad variable name"
      assign name new
      return marksOf isQuoted new
  | .orElse .refuse orEmpty w =>
    if !isAbsent orEmpty then plain
    else if w.isEmpty then
      giveUp (s!"{name}: parameter not set" ++ if orEmpty then " or null" else "")
    else
      let message := textOf (← i.expand w)
      giveUp s!"{name}: {message}"
  | .unknown => giveUp "Bad substitution"

/-! ### Pieces -/

/-- The result of a text as an expression, with its assignments made. -/
def calculate (text : String) : Act Int := do
  let values (ps : List (String × Parameter)) (name : String) : String :=
    ((ps.lookup name).bind (·.value)).getD ""
  match arithmetic (values (← get).parameters) text.toList with
  | .error fault => giveUp (fault.message text)
  | .ok (n, assigned) =>
    assigned.reverse.forM fun (name, m) ↦ assign name (toString m)
    return n

/-- What a piece is replaced by. -/
def expandPiece (i : Inner) : Piece → Act (List Mark)
  | .text cs isQuoted =>
    return (if isQuoted then [.present] else []) ++ cs.map fun c ↦ .char c isQuoted false
  | .parameter name use isQuoted => parameterMarks i name use isQuoted
  | .output body isQuoted => return marksOf isQuoted (← captured i body)
  | .arithmetic w isQuoted => do
    let n ← calculate (textOf (← i.expand w))
    return marksOf isQuoted (toString n)

/-- What the pieces of a word are replaced by. -/
def expandPieces (i : Inner) (w : Word) : Act (List Mark) := do
  return (← w.mapM (expandPiece i)).flatten

/-- A word with the mark of the home directory at its start replaced. -/
def withHome (home : Option String) : Word → Word
  | .text ('~' :: cs) false :: rest =>
    match home with
    | some dir =>
      if cs.head?.all (· = '/') && (!cs.isEmpty || rest.isEmpty) then
        .text dir.toList true :: .text cs false :: rest
      else .text ('~' :: cs) false :: rest
    | none => .text ('~' :: cs) false :: rest
  | w => w

/-! ### Splitting -/

/-- The texts that marks have been split into so far, the latest first, and the characters of the
text that has not been ended, the latest first. -/
structure Split where
  finished : List (List Glyph) := []
  current : Option (List Glyph) := none
  /-- Whether the latest text was ended by a blank. -/
  afterBlank : Bool := false

/-- Ends a text, if there is one. -/
def Split.close (s : Split) : Split :=
  match s.current with
  | some gs => { s with finished := gs.reverse :: s.finished, current := none }
  | none => s

/-- Adds a mark. Blanks end a text only once, and a separator that is no blank ends one even if it
is empty, unless a blank has just ended it. -/
def Split.add (separators : List Char) (s : Split) : Mark → Split
  | .present => { s with current := some (s.current.getD []), afterBlank := false }
  | .gap => { s.close with afterBlank := false }
  | .char c isQuoted separates =>
    if separates && c ∈ separators then
      if c = ' ' || c = '\t' || c = '\n' then
        { s.close with afterBlank := s.afterBlank || s.current.isSome }
      else if s.current.isNone && s.afterBlank then { s with afterBlank := false }
      else { { s with current := some (s.current.getD []) }.close with afterBlank := false }
    else { s with current := some (⟨c, isQuoted⟩ :: s.current.getD []), afterBlank := false }

/-- The texts of marks. -/
def splitMarks (separators : List Char) (ms : List Mark) : List (List Glyph) :=
  (ms.foldl (Split.add separators) {}).close.finished.reverse

/-! ### Files that fit a pattern -/

/-- The names in a directory, given by a path. -/
def namesAt (t : FileTree) (path : String) : List String :=
  match t.openPath ⟨toText path⟩ with
  | .ok loc =>
    match t.get? loc with
    | some (.directory _) => (t.names loc).map ofText
    | _ => []
  | .error _ => []

/-- The names in a directory that fit a part of a pattern. A point at the start of a name is not
covered by other marks. -/
def namesFitting (t : FileTree) (start : String) (part : List Glyph) : List String :=
  let names := namesAt t (if start = "" then "." else start)
  let isDotted := part.head?.any (·.char = '.')
  let among := if isDotted then "." :: ".." :: names else names.filter (!·.startsWith ".")
  among.filter fun name ↦ (Pattern.ofGlyphs part).covers name.toList

/-- The paths that fit the parts of a pattern between slashes, below the start of a path. -/
def pathsFrom (t : FileTree) : String → List (List Glyph) → List String
  | start, [] => [start]
  | start, [last] =>
    if (Pattern.ofGlyphs last).isProper then
      (namesFitting t start last).map (start ++ ·)
    else
      let path := start ++ String.ofList (charsOf last)
      if t.pathExists ⟨toText path⟩ then [path] else []
  | start, part :: rest =>
    if (Pattern.ofGlyphs part).isProper then
      (namesFitting t start part).flatMap fun name ↦ pathsFrom t (start ++ name ++ "/") rest
    else pathsFrom t (start ++ String.ofList (charsOf part) ++ "/") rest

/-- A text, or the files that fit it if it is a pattern. -/
def filesFitting (t : FileTree) (gs : List Glyph) : List String :=
  let plain := String.ofList (charsOf gs)
  if (Pattern.ofGlyphs gs).isProper then
    match pathsFrom t "" (gs.splitOnP (·.char = '/')) with
    | [] => [plain]
    | paths => paths.mergeSort
  else [plain]

/-! ### Words -/

/-- The texts that a word stands for. -/
def expandWord (i : Inner) (w : Word) : Act (List String) := do
  let ms ← expandPieces i (withHome (← valueOf? "HOME") w)
  let texts := splitMarks (← separators) ms
  if ← hasOption 'f' then return texts.map fun gs ↦ String.ofList (charsOf gs)
  let files := (← get).world.files
  return texts.flatMap (filesFitting files)

/-- The one text that a word stands for where it is not split. -/
def expandText (i : Inner) (w : Word) : Act String := do
  return textOf (← expandPieces i (withHome (← valueOf? "HOME") w))

/-- The pattern that a word stands for. -/
def expandPattern (i : Inner) (w : Word) : Act Pattern := do
  return Pattern.ofGlyphs (glyphsOf (← expandPieces i (withHome (← valueOf? "HOME") w)))

end Shell

end NetReconcile
