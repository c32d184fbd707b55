import NetReconcile.Shell.Condition
import NetReconcile.Shell.Format
import NetReconcile.Shell.Pattern
import NetReconcile.Shell.Session

/-!
# The programs of a machine

A machine has a few programs of its own. What each of them does is a function of the name that it is
called by, which its messages start with, and of its arguments; the answer is its status. Those that
run other programs are not among them.

## Main definitions

* `Program`: the programs, and the names that they are found by.
* `Options`: arguments taken apart.
* `Program.perform`: what a program does.
-/

namespace NetReconcile

namespace Shell

/-- The programs of a machine. -/
inductive Program
  | echo
  | printf
  | succeed
  | failing
  | cat
  | sleep
  | touch
  | test
  | seq
  | wc
  | head
  | tail
  | tr
  | sort
  | basename
  | dirname
  | tee
  | mkdir
  | rmdir
  | rm
  | ls
  | pwd
  | env
  | sh
  deriving DecidableEq, Repr

/-- The names of programs. -/
def Program.named : List (String × Program) :=
  [("echo", .echo), ("printf", .printf), ("true", .succeed), ("false", .failing), ("cat", .cat),
    ("sleep", .sleep), ("touch", .touch), ("test", .test), ("[", .test), ("seq", .seq), ("wc", .wc),
    ("head", .head), ("tail", .tail), ("tr", .tr), ("sort", .sort), ("basename", .basename),
    ("dirname", .dirname), ("tee", .tee), ("mkdir", .mkdir), ("rmdir", .rmdir), ("rm", .rm),
    ("ls", .ls), ("pwd", .pwd), ("env", .env), ("sh", .sh), ("dash", .sh)]

/-- The directories of the programs of a machine. -/
def programDirectories : List String :=
  ["/bin/", "/usr/bin/"]

/-- The program of a machine with a name, which may be given with its directory. -/
def Program.ofName? (name : String) : Option Program :=
  (named.find? fun (n, _) ↦ n = name || programDirectories.any (· ++ n = name)).map (·.2)

/-! ### Arguments -/

/-- Arguments taken apart: letters with their values, and operands. -/
structure Options where
  given : List (Char × String) := []
  operands : List String := []
  deriving Repr

/-- Whether an option is given. -/
def Options.has (o : Options) (letter : Char) : Bool :=
  o.given.any (·.1 = letter)

/-- The value of an option that is given, the last if there are several. -/
def Options.value? (o : Options) (letter : Char) : Option String :=
  o.given.reverse.lookup letter

/-- Why arguments cannot be taken apart. -/
inductive OptionFault
  | unknownLetter (letter : Char)
  | unknownWord (arg : String)
  | noValue (letter : Char)
  deriving DecidableEq, Repr

/-- The wording of why arguments cannot be taken apart. -/
def OptionFault.message : OptionFault → String
  | unknownLetter letter => s!"invalid option -- '{letter}'"
  | unknownWord arg => s!"unrecognized option '{arg}'"
  | noValue letter => s!"option requires an argument -- '{letter}'"

/-- Takes letters apart that stand together. The last of them may want a value, which is what
follows it, or the next argument. -/
def takeLetters (flags valued : List Char) (next : List String) :
    List Char → Except OptionFault (List (Char × String) × List String)
  | [] => .ok ([], next)
  | c :: cs =>
    if c ∈ flags then (takeLetters flags valued next cs).map fun (os, rest) ↦ ((c, "") :: os, rest)
    else if c ∈ valued then
      match cs, next with
      | [], [] => .error (.noValue c)
      | [], v :: rest => .ok ([(c, v)], rest)
      | cs, next => .ok ([(c, String.ofList cs)], next)
    else .error (.unknownLetter c)

/-- Takes arguments apart. Options and operands can be mixed. -/
def takeOptions (flags valued : List Char) : Nat → List String → Except OptionFault Options
  | 0, _ | _, [] => .ok {}
  | fuel + 1, arg :: rest =>
    match arg.toList with
    | ['-', '-'] => .ok { operands := rest }
    | '-' :: '-' :: _ => .error (.unknownWord arg)
    | '-' :: c :: cs => do
      let (os, rest) ← takeLetters flags valued rest (c :: cs)
      let o ← takeOptions flags valued fuel rest
      return { o with given := os ++ o.given }
    | _ => do
      let o ← takeOptions flags valued fuel rest
      return { o with operands := arg :: o.operands }

/-- Says how a program has been used wrongly. -/
def misused (name message : String) (status : Nat := 1) : Act Nat := do
  say s!"{name}: {message}"
  say s!"Try '{name} --help' for more information."
  return status

/-- Does something with arguments that have been taken apart. -/
def withOptions (name flags valued : String) (args : List String) (act : Options → Act Nat) :
    Act Nat :=
  match takeOptions flags.toList valued.toList (args.length + 1) args with
  | .ok o => act o
  | .error fault => misused name fault.message

/-- Writes what a program has to say. -/
def put (text : String) : Act Unit :=
  discard (write 1 text)

/-! ### Files -/

/-- Why a call on a file failed. -/
def reasonOf : HostError → String
  | .system e => e.meaning
  | e => e.message

/-- A path as a program is given it. -/
def pathOf (arg : String) : FilePath :=
  ⟨toText arg⟩

/-- Makes a call that changes files. -/
def change {α : Type} (call : FileTree.Change α) : Act (Except HostError α) := do
  match call (← get).world.files with
  | .ok a files =>
    modify fun s ↦ { s with world.files := files }
    return .ok a
  | .error e files =>
    modify fun s ↦ { s with world.files := files }
    return .error e

/-- What a file holds. A dash stands for what can be read. -/
def contentsOf (arg : String) : Act (Except HostError String) := do
  if arg = "-" then return .ok (← takeAll 0)
  if arg = "/dev/null" then return .ok ""
  return ((← get).world.files.readBytes (pathOf arg)).map ofBytes

/-- Does something with each of some things, and fails with a status if that fails for one. -/
def forEach {α : Type} (status : Nat) (act : α → Act Bool) (args : List α) : Act Nat := do
  let outcomes ← args.mapM act
  return if outcomes.all id then 0 else status

/-- Reads files, or what can be read if there are none, and does something with each. -/
def forFiles (name : String) (refusal : String → String) (act : String → String → Act Unit)
    (args : List String) : Act Nat :=
  forEach 1 (fun arg ↦ do
    match ← contentsOf arg with
    | .ok text =>
      act arg text
      return true
    | .error e =>
      say s!"{name}: {refusal arg}{reasonOf e}"
      return false) (if args.isEmpty then ["-"] else args)

/-! ### Texts -/

/-- The lines of a text, without what ends them. -/
def linesOf (text : String) : List String :=
  if text = "" then []
  else
    let lines := text.toList.splitOn '\n'
    ((if lines.getLast? = some [] then lines.dropLast else lines)).map String.ofList

/-- The lines of a text with what ends them. -/
def wholeLines (text : String) : List String :=
  let lines := linesOf text
  if text.endsWith "\n" then lines.map (· ++ "\n")
  else lines.dropLast.map (· ++ "\n") ++ lines.getLast?.toList

/-- Writes the contents of files, with numbers before their lines if that is asked for. -/
def cat (name : String) (args : List String) : Act Nat :=
  withOptions name "nu" "" args fun o ↦
    forFiles name (· ++ ": ") (fun _ text ↦
      if o.has 'n' then
        put (String.join ((wholeLines text).mapIdx fun n line ↦
          let digits := toString (n + 1)
          "".pushn ' ' (6 - digits.length) ++ digits ++ "\t" ++ line))
      else put text) o.operands

/-- Counts of a text: its line breaks, its words and its bytes. -/
def countsOf (text : String) : List Nat :=
  let cs := text.toList
  [cs.count '\n', ((cs.splitOnP isSpace).filter (!·.isEmpty)).length, cs.length]

/-- Counts the lines, words and bytes of files. A count alone is not padded; others are as wide as
the number of all bytes, or seven if what is counted has no size. -/
def wc (name : String) (args : List String) : Act Nat :=
  withOptions name "clmw" "" args fun o ↦ do
    let wanted := [o.has 'l', o.has 'w', o.has 'c' || o.has 'm']
    let wanted := if wanted.any id then wanted else [true, true, true]
    let pick (ns : List Nat) := ((wanted.zip ns).filter (·.1)).map (·.2)
    let read ← (if o.operands.isEmpty then ["-"] else o.operands).mapM fun arg ↦
      return (arg, ← contentsOf arg)
    let total := read.foldl (fun n (_, r) ↦ n + (r.toOption.getD "").length) 0
    let width :=
      if (pick [0, 0, 0]).length = 1 && read.length = 1 then 1
      else if read.any (·.1 = "-") then 7
      else (toString total).length
    let row (ns : List Nat) (title : String) : Act Unit :=
      let shown := (pick ns).map fun n ↦
        let digits := toString n
        "".pushn ' ' (width - digits.length) ++ digits
      put (" ".intercalate shown ++ title ++ "\n")
    let status ← forEach 1 (fun (arg, r) ↦ do
      match r with
      | .ok text =>
        row (countsOf text) (if o.operands.isEmpty then "" else " " ++ arg)
        return true
      | .error e =>
        say s!"{name}: {arg}: {reasonOf e}"
        return false) read
    if 1 < read.length then
      let sums := read.foldl (fun (sums : List Nat) (_, r) ↦
        List.zipWith (· + ·) sums (countsOf (r.toOption.getD ""))) [0, 0, 0]
      row sums " total"
    return status

/-- The options of `head` and `tail` with a number in place of a letter spelled out. -/
def spelledOut : List String → List String
  | arg :: rest =>
    match arg.toList with
    | '-' :: c :: cs => if c.isDigit then "-n" :: String.ofList (c :: cs) :: rest else arg :: rest
    | _ => arg :: rest
  | [] => []

/-- The start or the end of some parts. -/
def cutParts (isEnd : Bool) (number : String) (parts : List String) : Option (List String) := do
  let (mark, ds) :=
    match number.toList with
    | '-' :: ds => ('-', ds)
    | '+' :: ds => ('+', ds)
    | ds => (' ', ds)
  let n ← Text.digits? 10 ds
  if isEnd then return parts.drop (if mark = '+' then n - 1 else parts.length - n)
  else return parts.take (if mark = '-' then parts.length - n else n)

/-- Writes the start or the end of files. -/
def headOrTail (isEnd : Bool) (name : String) (args : List String) : Act Nat :=
  withOptions name "qv" "nc" (spelledOut args) fun o ↦ do
    let (number, isBytes) :=
      match o.value? 'c', o.value? 'n' with
      | some n, _ => (n, true)
      | none, some n => (n, false)
      | none, none => ("10", false)
    let parts (text : String) :=
      if isBytes then text.toList.map String.singleton else wholeLines text
    if (cutParts isEnd number []).isNone then
      let unit := if isBytes then "bytes" else "lines"
      say s!"{name}: invalid number of {unit}: '{number}'"
      return 1
    let hasTitles := (1 < o.operands.length && !o.has 'q') || o.has 'v'
    forFiles name (fun arg ↦ s!"cannot open '{arg}' for reading: ") (fun arg text ↦ do
      if hasTitles then
        let shown := if arg = "-" then "standard input" else arg
        put ((if o.operands.head? = some arg then "" else "\n") ++ s!"==> {shown} <==\n")
      put (String.join ((cutParts isEnd number (parts text)).getD []))) o.operands

/-- The characters between two. -/
def charRange (low high : Char) : List Char :=
  (List.range (high.toNat + 1 - low.toNat)).map fun n ↦ Char.ofNat (low.toNat + n)

/-- The characters of a set that `tr` is given. -/
def trSet : Nat → List Char → List Char
  | 0, _ | _, [] => []
  | fuel + 1, '\\' :: cs =>
    match readEscape .shell .format cs with
    | .chars ['\\', c] rest => c :: trSet fuel rest
    | .chars written rest => written ++ trSet fuel rest
    | _ => []
  | fuel + 1, c :: cs =>
    match Pattern.readClass? ((c :: cs).map fun d ↦ ⟨d, false⟩) with
    | some (ranges, rest) =>
      ranges.flatMap (fun (low, high) ↦ charRange low high) ++ trSet fuel (charsOf rest)
    | none =>
      match cs with
      | '-' :: high :: rest => charRange c high ++ trSet fuel rest
      | _ => c :: trSet fuel cs

/-- Leaves out characters of a set that repeat the one before them. -/
def squeeze (set : Char → Bool) : List Char → List Char
  | c :: d :: cs => if c = d && set c then squeeze set (d :: cs) else c :: squeeze set (d :: cs)
  | cs => cs

/-- Replaces characters of one set by those of another, deletes them, or lets them stand once. -/
def tr (name : String) (args : List String) : Act Nat :=
  withOptions name "cCds" "" args fun o ↦ do
    let sets := o.operands.map fun s ↦ trSet (s.length + 1) s.toList
    let isComplement := o.has 'c' || o.has 'C'
    let isIn (set : List Char) (c : Char) : Bool := decide (c ∈ set) != isComplement
    let replaced (first second : List Char) (c : Char) : Char :=
      if !isIn first c then c
      else if isComplement then second.getLast?.getD c
      else
        match first.reverse.idxOf? c with
        | some n => (second[first.length - 1 - n]?).getD (second.getLast?.getD c)
        | none => c
    match sets with
    | [] => misused name "missing operand"
    | [first] =>
      if o.has 'd' then
        put (String.ofList ((← takeAll 0).toList.filter (!isIn first ·)))
        return 0
      else if o.has 's' then
        put (String.ofList (squeeze (isIn first) (← takeAll 0).toList))
        return 0
      else
        let operand := o.operands.head?.getD ""
        say s!"{name}: missing operand after '{operand}'"
        say "Two strings must be given when translating."
        say s!"Try '{name} --help' for more information."
        return 1
    | first :: second :: _ =>
      let text := (← takeAll 0).toList
      let new := if o.has 'd' then text.filter (!isIn first ·) else text.map (replaced first second)
      put (String.ofList (if o.has 's' then squeeze (· ∈ second) new else new))
      return 0

/-- The number that a line starts with, times a power of ten. -/
def numericKey (line : String) : Int :=
  let cs := line.toList.dropWhile fun c ↦ c = ' ' || c = '\t'
  let (negative, cs) := match cs with
    | '-' :: cs => (true, cs)
    | cs => (false, cs)
  let (whole, rest) := allDigits 10 cs
  let places := match rest with
    | '.' :: cs => (allDigits 10 cs).1.take 9
    | _ => []
  let n : Int := valueOf 10 (whole ++ places ++ List.replicate (9 - places.length) '0')
  if negative then -n else n

/-- Writes the lines of files in order. -/
def sort (name : String) (args : List String) : Act Nat :=
  withOptions name "nru" "" args fun o ↦ do
    let read ← (if o.operands.isEmpty then ["-"] else o.operands).mapM fun arg ↦
      return (arg, ← contentsOf arg)
    match read.find? fun (_, r) ↦ !r.isOk with
    | some (arg, .error e) =>
      say s!"{name}: cannot read: {arg}: {reasonOf e}"
      return 2
    | _ =>
      let lines := read.flatMap fun (_, r) ↦ linesOf (r.toOption.getD "")
      let comesBefore (a b : String) : Bool :=
        if o.has 'n' && numericKey a ≠ numericKey b then numericKey a ≤ numericKey b
        else if o.has 'n' && o.has 'u' then true
        else a ≤ b
      let isSame (a b : String) : Bool :=
        if o.has 'n' then numericKey a = numericKey b else a = b
      let sorted := lines.mergeSort fun a b ↦
        if o.has 'r' then comesBefore b a else comesBefore a b
      let once := sorted.foldr (fun (line : String) (kept : List String) ↦
        if kept.head?.any (isSame line) then line :: kept.tail else line :: kept) []
      put (String.join ((if o.has 'u' then once else sorted).map (· ++ "\n")))
      return 0

/-! ### Numbers -/

/-- A decimal number: its digits as a whole number, and how many of them are places. -/
def decimalOf? (arg : String) : Option (Int × Nat) := do
  let (negative, cs) := takeSign arg.toList
  let (n, places, rest) ← readPlaces 10 cs
  if rest.isEmpty then return (if negative then -(n : Int) else n, places) else none

/-- A decimal number with a number of places. -/
def decimalText (n : Int) (places : Nat) : String :=
  let ds := String.ofList (withPoint n.natAbs places false)
  if n < 0 then "-" ++ ds else ds

/-- The numbers from one to another. -/
def numbersFrom (step last : Int) : Nat → Int → List Int
  | 0, _ => []
  | fuel + 1, n =>
    if (0 < step && last < n) || (step < 0 && n < last) then []
    else n :: numbersFrom step last fuel (n + step)

/-- Writes numbers in a row. -/
def seq (name : String) (args : List String) : Act Nat :=
  withOptions name "w" "s" (guarded args) fun o ↦ do
    let operands := o.operands.map unguarded
    match operands.find? fun a ↦ (decimalOf? a).isNone with
    | some arg => misused name s!"invalid floating point argument: '{arg}'"
    | none =>
      let numbers := operands.filterMap decimalOf?
      match numbers with
      | [] => misused name "missing operand"
      | [last] => row o (1, 0) (1, 0) last
      | [first, last] => row o first (1, 0) last
      | [first, step, last] =>
        if step.1 = 0 then
          let arg := operands[1]?.getD ""
          misused name s!"invalid Zero increment value: '{arg}'"
        else row o first step last
      | _ =>
        let arg := operands[3]?.getD ""
        misused name s!"extra operand '{arg}'"
where
  /-- Keeps numbers with a sign from being taken for options. -/
  guarded (args : List String) : List String :=
    args.map fun a ↦ if (decimalOf? a).isSome then "\x00" ++ a else a
  unguarded (arg : String) : String :=
    if arg.startsWith "\x00" then String.ofList (arg.toList.drop 1) else arg
  row (o : Options) (first step last : Int × Nat) : Act Nat := do
    let places := max first.2 step.2
    let most := max places last.2
    let raised (d : Int × Nat) : Int := d.1 * (Nat.pow 10 (most - d.2) : Nat)
    let count := ((raised last - raised first).natAbs / (raised step).natAbs) + 1
    let unit : Int := (Nat.pow 10 (most - places) : Nat)
    let texts := (numbersFrom (raised step) (raised last) count (raised first)).map fun n ↦
      decimalText (n / unit) places
    let width := (texts.map String.length).foldl max 0
    let padded := if o.has 'w' then texts.map (pad width) else texts
    if !texts.isEmpty then put (((o.value? 's').getD "\n").intercalate padded ++ "\n")
    return 0
  pad (width : Nat) (text : String) : String :=
    let zeros := "".pushn '0' (width - text.length)
    if text.startsWith "-" then "-" ++ zeros ++ String.ofList (text.toList.drop 1)
    else zeros ++ text

/-- Whether an argument is a stretch of time. -/
def isInterval (arg : String) : Bool :=
  let cs := match arg.toList.getLast? with
    | some c => if c ∈ ['s', 'm', 'h', 'd'] then arg.toList.dropLast else arg.toList
    | none => []
  match readReal 64 cs with
  | some r => r.rest.isEmpty && (cs.head? ≠ some '-')
  | none => false

/-- Waits, for which no time passes here. -/
def sleep (name : String) (args : List String) : Act Nat :=
  withOptions name "" "" args fun o ↦ do
    if o.operands.isEmpty then misused name "missing operand"
    else
      match o.operands.filter (!isInterval ·) with
      | [] => return 0
      | wrong =>
        wrong.forM fun arg ↦ say s!"{name}: invalid time interval '{arg}'"
        say s!"Try '{name} --help' for more information."
        return 1

/-! ### Paths -/

/-- The last part of a path. -/
def lastPart (path : String) : String :=
  let cs := (path.toList.reverse.dropWhile (· = '/')).reverse
  if cs.isEmpty then (if path = "" then "" else "/")
  else String.ofList ((cs.reverse.takeWhile (· ≠ '/')).reverse)

/-- A path without its last part. -/
def leadingPart (path : String) : String :=
  let cs := path.toList.reverse.dropWhile (· = '/')
  let before := cs.dropWhile (· ≠ '/')
  let kept := (before.dropWhile (· = '/')).reverse
  if kept.isEmpty then (if before.isEmpty && !path.startsWith "/" then "." else "/")
  else String.ofList kept

/-- A text without an end that it has, unless that is all of it. -/
def withoutEnd (text ending : String) : String :=
  if ending ≠ "" && text ≠ ending && text.endsWith ending then
    String.ofList (text.toList.take (text.length - ending.length))
  else text

/-- Writes the last part of a path. -/
def basename (name : String) (args : List String) : Act Nat :=
  withOptions name "" "" args fun o ↦ do
    match o.operands with
    | [] => misused name "missing operand"
    | [path] => put (lastPart path ++ "\n")
                return 0
    | [path, ending] => put (withoutEnd (lastPart path) ending ++ "\n")
                        return 0
    | _ :: _ :: extra :: _ => misused name s!"extra operand '{extra}'"

/-- Writes paths without their last parts. -/
def dirname (name : String) (args : List String) : Act Nat :=
  withOptions name "" "" args fun o ↦ do
    if o.operands.isEmpty then misused name "missing operand"
    else
      o.operands.forM fun path ↦ put (leadingPart path ++ "\n")
      return 0

/-! ### Changing files -/

/-- Makes files, as far as they are missing. -/
def touch (name : String) (args : List String) : Act Nat :=
  withOptions name "acm" "" args fun o ↦ do
    if o.operands.isEmpty then misused name "missing file operand"
    else
      forEach 1 (fun arg ↦ do
        if o.has 'c' || (← get).world.files.pathExists (pathOf arg) then return true
        match ← change (FileTree.createFile (pathOf arg)) with
        | .ok _ => return true
        | .error e =>
          say s!"{name}: cannot touch '{arg}': {reasonOf e}"
          return false) o.operands

/-- Writes what can be read, and into files as well. -/
def tee (name : String) (args : List String) : Act Nat :=
  withOptions name "ai" "" args fun o ↦ do
    let text ← takeAll 0
    put text
    forEach 1 (fun arg ↦ do
      let old := ((← get).world.files.readBytes (pathOf arg)).toOption.getD []
      match ← change (FileTree.createFile (pathOf arg)) with
      | .ok loc =>
        let bytes := (if o.has 'a' then old else []) ++ toBytes text
        discard (change (FileTree.fill loc bytes))
        return true
      | .error e =>
        say s!"{name}: {arg}: {reasonOf e}"
        return false) o.operands

/-- The paths that lead to a path, and the path itself. -/
def pathsTo : (before : List Char) → List Char → List (List Char)
  | before, [] => [before]
  | before, c :: cs =>
    let whole := before ++ [c]
    if c = '/' && before.getLast?.any (· ≠ '/') && cs.any (· ≠ '/') then before :: pathsTo whole cs
    else pathsTo whole cs

/-- Whether a path leads to a directory, or why it leads nowhere. -/
def isDirectory (t : FileTree) (p : FilePath) : Except HostError Bool := do
  match t.get? (← t.openPath p) with
  | some (.directory _) => return true
  | _ => return false

/-- Makes the directories that are missing of some paths, each of which leads to the next. The
answer names the first that cannot be one, and why. -/
def makeMissing : List String → Act (Except (String × HostError) Unit)
  | [] => return .ok ()
  | path :: paths => do
    match ← change (FileTree.makeDirectory (pathOf path) FileTree.defaultMode) with
    | .ok () => makeMissing paths
    | .error e =>
      match isDirectory (← get).world.files (pathOf path) with
      | .ok true => makeMissing paths
      | .ok false => return .error (path, if paths.isEmpty then e else .system .notDirectory)
      | .error other =>
        return .error (path, if paths.isEmpty || other = .system .noEntry then e else other)

/-- Makes directories, and those that lead to them if that is asked for. -/
def mkdir (name : String) (args : List String) : Act Nat :=
  withOptions name "p" "m" args fun o ↦ do
    if o.operands.isEmpty then misused name "missing operand"
    else
      forEach 1 (fun arg ↦ do
        let outcome ←
          if o.has 'p' then makeMissing ((pathsTo [] arg.toList).map String.ofList)
          else
            let made ← change (FileTree.makeDirectory (pathOf arg) FileTree.defaultMode)
            pure (made.mapError (arg, ·))
        match outcome with
        | .ok () => return true
        | .error (path, e) =>
          say s!"{name}: cannot create directory '{path}': {reasonOf e}"
          return false) o.operands

/-- Removes a location and all that is below it. -/
def removeAll (t : FileTree) (loc : FileTree.Location) : FileTree :=
  { t with entries := t.entries.filter fun e ↦ !loc.isSuffixOf e.1 }

/-- Removes files, or directories with all that is in them if that is asked for. -/
def rm (name : String) (args : List String) : Act Nat :=
  withOptions name "frR" "" args fun o ↦ do
    if o.operands.isEmpty && !o.has 'f' then misused name "missing operand"
    else
      forEach 1 (fun arg ↦ do
        let files := (← get).world.files
        match files.locate .entry (pathOf arg), files.mode? (pathOf arg) with
        | .ok (.existing loc), some _ =>
          if (o.has 'r' || o.has 'R') && (files.readLink? (pathOf arg)).isNone then
            modify fun s ↦ { s with world.files := removeAll files loc }
            return true
          else remove o arg
        | _, _ => remove o arg) o.operands
where
  remove (o : Options) (arg : String) : Act Bool := do
    match ← change (FileTree.removeEntry (pathOf arg)) with
    | .ok () => return true
    | .error e =>
      if o.has 'f' && e = .system .noEntry then return true
      say s!"{name}: cannot remove '{arg}': {reasonOf e}"
      return false

/-- Removes directories in which nothing is. -/
def rmdir (name : String) (args : List String) : Act Nat :=
  withOptions name "" "" args fun o ↦ do
    if o.operands.isEmpty then misused name "missing operand"
    else
      forEach 1 (fun arg ↦ do
        let files := (← get).world.files
        let refusal : Option String :=
          match files.openPath (pathOf arg) with
          | .error e => some (reasonOf e)
          | .ok loc =>
            match files.get? loc with
            | some (.directory _) =>
              if (files.names loc).isEmpty then none else some "Directory not empty"
            | _ => some "Not a directory"
        match refusal, files.openPath (pathOf arg) with
        | none, .ok loc =>
          modify fun s ↦ { s with world.files := files.erase loc }
          return true
        | reason, _ =>
          let reason := reason.getD ""
          say s!"{name}: failed to remove '{arg}': {reason}"
          return false) o.operands

/-- What `ls` shows of a directory. -/
def shownNames (o : Options) (t : FileTree) (loc : FileTree.Location) : List String :=
  let names := (t.names loc).map ofText
  if o.has 'a' then "." :: ".." :: names
  else if o.has 'A' then names
  else names.filter (!·.startsWith ".")

/-- Lists files, and what is in directories. -/
def ls (name : String) (args : List String) : Act Nat :=
  withOptions name "1aAd" "" args fun o ↦ do
    let files := (← get).world.files
    let operands := (if o.operands.isEmpty then ["."] else o.operands).mergeSort
    let found := operands.map fun arg ↦ (arg, files.openPath (pathOf arg))
    found.forM fun (arg, outcome) ↦
      match outcome with
      | .error e => say s!"{name}: cannot access '{arg}': {reasonOf e}"
      | .ok _ => pure ()
    let (directories, others) := (found.filterMap fun (arg, outcome) ↦
      outcome.toOption.map (arg, ·)).partition fun (_, loc) ↦
        match files.get? loc with
        | some (.directory _) => !o.has 'd'
        | _ => false
    put (String.join (others.map (·.1 ++ "\n")))
    let isTitled := 1 < operands.length
    directories.zipIdx.forM fun ((arg, loc), n) ↦ do
      if isTitled then put ((if n = 0 && others.isEmpty then "" else "\n") ++ arg ++ ":\n")
      put (String.join ((shownNames o files loc).map (· ++ "\n")))
    return if found.any fun (_, outcome) ↦ !outcome.isOk then 2 else 0

/-- The path of the working directory. -/
def workPath : Act String := do
  return ofText ("/" ++ "/".intercalate (← get).world.files.workDir.reverse)

/-! ### Programs -/

/-- Says whether a condition holds. In brackets, the last argument has to close them. -/
def test (family : Family) (name : String) (args : List String) : Act Nat := do
  let isBracket := name = "[" || name.endsWith "/["
  let inner := if isBracket then args.dropLast else args
  let files := (← get).world.files
  let outcome : Except TestFault Bool :=
    if isBracket && args.getLast? ≠ some "]" then .error .unclosed
    else evaluateTest (.ofFiles (family = .shell) files) inner
  match outcome with
  | .ok holds => return if holds then 0 else 1
  | .error fault =>
    match family with
    | .shell => giveUp fault.message
    | .disk =>
      say s!"{name}: {fault.diskMessage inner}"
      return 2

/-- Writes a format with its arguments. -/
def printfOnDisk (name : String) (args : List String) : Act Nat := do
  match if args.head? = some "--" then args.tail else args with
  | [] => misused name "missing operand"
  | format :: rest =>
    let p := printf .disk format rest
    put p.text
    p.messages.forM fun message ↦ say s!"{name}: {message}"
    return p.status

/-- What a program does that runs no others, given the name that it is called by. -/
def Program.perform (name : String) (args : List String) : Program → Act Nat
  | echo => do
    put (String.ofList (diskEcho args))
    return 0
  | printf => printfOnDisk name args
  | succeed => return 0
  | failing => return 1
  | cat => Shell.cat name args
  | sleep => Shell.sleep name args
  | touch => Shell.touch name args
  | test => Shell.test .disk name args
  | seq => Shell.seq name args
  | wc => Shell.wc name args
  | head => headOrTail false name args
  | tail => headOrTail true name args
  | tr => Shell.tr name args
  | sort => Shell.sort name args
  | basename => Shell.basename name args
  | dirname => Shell.dirname name args
  | tee => Shell.tee name args
  | mkdir => Shell.mkdir name args
  | rmdir => Shell.rmdir name args
  | rm => Shell.rm name args
  | ls => Shell.ls name args
  | pwd => do
    put ((← workPath) ++ "\n")
    return 0
  | env | sh => return 126

end Shell

end NetReconcile
