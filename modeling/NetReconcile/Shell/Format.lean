import NetReconcile.Shell.Escape

/-!
# Formats

`printf` writes a format with places for arguments, and writes it again as long as arguments are
left. A place names the kind of its argument by a letter, and before it how the value is padded: by
flags, a least width, and a precision, both of which can be asked of the arguments. A value that is
no number counts as far as it is one, and is complained about.

## Main definitions

* `Directive`: a place of a format, and how it is read.
* `Style`: how a value is padded.
* `printf`: what a format and arguments are written as.
-/

namespace NetReconcile.Shell

/-! ### Places -/

/-- A number of a place. -/
inductive Measure
  | given (n : Nat)
  /-- It is the next argument. -/
  | asked
  deriving DecidableEq, Repr

/-- A place of a format. -/
structure Directive where
  flags : List Char
  width : Option Measure
  precision : Option Measure
  /-- Letters for the size of a number, which say nothing here. -/
  sizes : List Char
  letter : Option Char
  /-- The place as it is written. -/
  text : List Char
  deriving Repr

/-- Whether a character is a flag of a place. -/
def isFlag (family : Family) (c : Char) : Bool :=
  c ∈ ['#', '-', '+', ' ', '0'] || (family = .disk && (c = '\'' || c = 'I'))

/-- Whether a letter is about the size of a number. -/
def isSize (family : Family) (c : Char) : Bool :=
  family = .disk && c ∈ ['l', 'L', 'h', 'j', 't', 'z']

/-- Reads a number of a place, if there is one. -/
def readMeasure : List Char → Option Measure × List Char
  | '*' :: cs => (some .asked, cs)
  | cs =>
    let (ds, rest) := allDigits 10 cs
    (if ds.isEmpty then none else some (.given (valueOf 10 ds)), rest)

/-- Reads a precision, which is zero if nothing follows its point. -/
def readPrecision : List Char → Option Measure × List Char
  | '.' :: cs =>
    let (m, rest) := readMeasure cs
    (some (m.getD (.given 0)), rest)
  | cs => (none, cs)

/-- Reads a place after its percent sign. -/
def readDirective (family : Family) (cs : List Char) : Directive × List Char :=
  let flags := cs.takeWhile (isFlag family)
  let (width, afterWidth) := readMeasure (cs.drop flags.length)
  let (precision, afterPrecision) := readPrecision afterWidth
  let sizes := afterPrecision.takeWhile (isSize family)
  let atLetter := afterPrecision.drop sizes.length
  let rest := atLetter.tail
  ({ flags, width, precision, sizes, letter := atLetter.head?,
     text := '%' :: cs.take (cs.length - rest.length) }, rest)

/-- The letters of places for numbers with a sign. -/
def signedLetters : List Char :=
  ['d', 'i']

/-- The letters of places for numbers without a sign. -/
def unsignedLetters : List Char :=
  ['o', 'u', 'x', 'X']

/-- The letters of places for fractions. -/
def realLetters : List Char :=
  ['e', 'E', 'f', 'F', 'g', 'G']

/-- Whether a place on disk may have what it has before its letter. -/
def Directive.isPlain (d : Directive) (letter : Char) : Bool :=
  let refuses (flag : Char) (letters : List Char) := flag ∈ d.flags && letter ∈ letters
  !(refuses '\'' ['c', 'e', 'E', 'o', 's', 'x', 'X'] || refuses '#' ['c', 'd', 'i', 's', 'u'] ||
    refuses '0' ['c', 's'] || (d.precision.isSome && letter = 'c'))

/-- Whether a family has a place for values other than texts with escapes. -/
def Directive.isKnown (family : Family) (d : Directive) (letter : Char) : Bool :=
  (letter ∈ signedLetters || letter ∈ unsignedLetters || letter ∈ realLetters || letter = 'c' ||
    letter = 's') && (family = .shell || d.isPlain letter)

/-! ### Padding -/

/-- How a value is padded. -/
structure Style where
  isLeft : Bool
  plus : Bool
  space : Bool
  alternate : Bool
  zeros : Bool
  width : Nat
  precision : Option Nat
  deriving Repr

namespace Style

/-- Pads a value. Zeros go after its sign. -/
def pad (s : Style) (zeros : Bool) (sign body : List Char) : List Char :=
  let lack := s.width - (sign.length + body.length)
  if s.isLeft then sign ++ body ++ List.replicate lack ' '
  else if zeros && s.zeros then sign ++ List.replicate lack '0' ++ body
  else List.replicate lack ' ' ++ sign ++ body

/-- The sign that a value is shown with. -/
def sign (s : Style) (negative : Bool) : List Char :=
  if negative then ['-'] else if s.plus then ['+'] else if s.space then [' '] else []

/-- The digits of a number, as many as the precision wants. -/
def digits (s : Style) (base n : Nat) : List Char :=
  let ds := if n = 0 && s.precision = some 0 then [] else Nat.toDigits base n
  List.replicate (s.precision.getD 0 - ds.length) '0' ++ ds

/-- A whole number with its sign. -/
def signed (s : Style) (n : Int) : List Char :=
  s.pad s.precision.isNone (s.sign (n < 0)) (s.digits 10 n.natAbs)

/-- A whole number without a sign, in the base of a letter. -/
def unsigned (s : Style) (letter : Char) (n : Nat) : List Char :=
  let zeros := s.precision.isNone
  match letter with
  | 'o' =>
    let ds := s.digits 8 n
    s.pad zeros [] (if s.alternate && ds.head? ≠ some '0' then '0' :: ds else ds)
  | 'x' => s.pad zeros (if s.alternate && n ≠ 0 then ['0', 'x'] else []) (s.digits 16 n)
  | 'X' =>
    s.pad zeros (if s.alternate && n ≠ 0 then ['0', 'X'] else [])
      ((s.digits 16 n).map Char.toUpper)
  | _ => s.pad zeros [] (s.digits 10 n)

/-- A fraction, in the form of a letter. -/
def real (s : Style) (letter : Char) (r : Real) : List Char :=
  let cased (cs : List Char) := if letter.isUpper then cs.map Char.toUpper else cs
  match r with
  | .undefined => s.pad false (s.sign false) (cased ['n', 'a', 'n'])
  | .infinite negative => s.pad false (s.sign negative) (cased ['i', 'n', 'f'])
  | .finite negative num den =>
    let places := s.precision.getD 6
    let body :=
      match letter.toLower with
      | 'f' => fixed num den places s.alternate
      | 'e' => scientific 'e' num den places s.alternate
      | _ => general 'e' num den places s.alternate
    s.pad true (s.sign negative) (cased body)

/-- A text, cut off after as many bytes as the precision says. -/
def text (s : Style) (cs : List Char) : List Char :=
  s.pad false [] (match s.precision with
    | some n => cs.take n
    | none => cs)

end Style

/-! ### Writing -/

/-- What `printf` has come to. -/
structure Printout where
  args : List String
  written : List Char := []
  complaints : List String := []
  /-- Whether a complaint lets it fail. -/
  hasFailed : Bool := false
  deriving Repr

/-- Why a format is not written on. -/
inductive Halt
  | stopped
  | refused (message : String)
  deriving Repr

/-- A step of writing a format. -/
abbrev Print :=
  EStateM Halt Printout

/-- Writes characters. -/
def emit (cs : List Char) : Print Unit :=
  modify fun p ↦ { p with written := p.written ++ cs }

/-- Complains without failing. -/
def warn (message : String) : Print Unit :=
  modify fun p ↦ { p with complaints := p.complaints ++ [message] }

/-- Complains, and fails in the end. -/
def protest (message : String) : Print Unit := do
  warn message
  modify fun p ↦ { p with hasFailed := true }

/-- The next argument. -/
def nextArg? : Print (Option String) :=
  modifyGet fun p ↦ (p.args.head?, { p with args := p.args.tail })

/-- What may be wrong with a number. -/
inductive NumberFault
  | notNumeric
  | incomplete
  | outOfRange
  deriving DecidableEq, Repr

/-- The wording of what is wrong with a number. -/
def NumberFault.message (family : Family) (arg : String) : NumberFault → String
  | notNumeric =>
    if family = .disk then s!"'{arg}': expected a numeric value"
    else s!"{arg}: expected numeric value"
  | incomplete =>
    if family = .disk then s!"'{arg}': value not completely converted"
    else s!"{arg}: not completely converted"
  | outOfRange =>
    let quoted := if family = .disk then s!"'{arg}'" else arg
    s!"{quoted}: Numerical result out of range"

/-- What is wrong with an argument of which nothing or something has been read as a number. -/
def faultOf? (arg : String) (rest : Option (List Char)) (outOfRange : Bool) :
    Option NumberFault :=
  match rest with
  | none => if arg = "" then none else some .notNumeric
  | some rest =>
    if outOfRange && (rest.isEmpty) then some .outOfRange
    else if rest.isEmpty then none else some .incomplete

/-- The byte that an argument gives after a quote. -/
def quotedByte (family : Family) (arg : String) : Print (Option Nat) := do
  match arg.toList with
  | q :: cs =>
    if q ≠ '\'' && q ≠ '"' then return none
    match cs with
    | c :: rest =>
      if family = .disk && !rest.isEmpty then
        warn (s!"warning: {String.ofList rest}: character(s) following character constant have " ++
          "been ignored")
      return some c.toNat
    | [] => return if family = .disk then none else some 0
  | [] => return none

/-- The whole number of an argument, cut off at bounds. -/
def wholeOf (family : Family) (low high : Int) (arg : String) : Print Int := do
  if let some n ← quotedByte family arg then return n
  let found := readWhole false arg.toList
  let n := (found.map (·.1)).getD 0
  if let some fault := faultOf? arg (found.map (·.2)) (n < low || high < n) then
    protest (fault.message family arg)
  return max low (min high n)

/-- The number of the bits that a word has. -/
def wordSize : Int :=
  18446744073709551616

/-- The whole number without a sign of an argument. A negative one counts from the largest down. -/
def unsignedOf (family : Family) (arg : String) : Print Nat := do
  let n ← wholeOf family (1 - wordSize) (wordSize - 1) arg
  return (n % wordSize).toNat

/-- The fraction of an argument. -/
def realOf (family : Family) (arg : String) : Print Real := do
  if let some n ← quotedByte family arg then return .finite false n 1
  let found := readReal (if family = .disk then 64 else 53) arg.toList
  let isTooLarge := (found.map (·.isTooLarge)).getD false
  if let some fault := faultOf? arg (found.map (·.rest)) isTooLarge then
    protest (fault.message family arg)
  return (found.map (·.value)).getD (.finite false 0 1)

/-- A number of a place, of the arguments if it is to be asked of them. -/
def measure (family : Family) : Option Measure → Print (Option Int)
  | none => pure none
  | some (.given n) => pure (some n)
  | some .asked => do
    match ← nextArg? with
    | some arg => return some (← wholeOf family (-wordMax - 1) wordMax arg)
    | none => return some 0

/-- How the value of a place is padded. A negative width is one to the left, and a negative
precision is none. -/
def styleOf (family : Family) (d : Directive) : Print Style := do
  let width := (← measure family d.width).getD 0
  let precision ← measure family d.precision
  return {
    isLeft := '-' ∈ d.flags || width < 0
    plus := '+' ∈ d.flags
    space := ' ' ∈ d.flags
    alternate := '#' ∈ d.flags
    zeros := '0' ∈ d.flags
    width := width.natAbs
    precision := (precision.filter (0 ≤ ·)).map (·.toNat) }

/-- Writes an argument with its escapes replaced. -/
def emitEscaped (family : Family) (s : Style) (arg : String) : Print Unit := do
  let u := unescape family .argument arg.toList
  emit (s.text u.written)
  if let some message := u.refusal then throw (.refused message)
  if !u.goesOn then throw .stopped

/-- Writes the value of a place. -/
def emitValue (family : Family) (s : Style) (letter : Char) (arg : String) : Print Unit := do
  if letter = 's' then emit (s.text arg.toList)
  else if letter = 'c' then emit (s.pad false [] [arg.toList.headD '\x00'])
  else if letter ∈ signedLetters then
    emit (s.signed (← wholeOf family (-wordMax - 1) wordMax arg))
  else if letter ∈ unsignedLetters then emit (s.unsigned letter (← unsignedOf family arg))
  else emit (s.real letter (← realOf family arg))

/-- Whether a place is one for a text with escapes. On disk, nothing may stand before its letter. -/
def Directive.isEscaped (family : Family) (d : Directive) : Bool :=
  d.letter = some 'b' && (family = .shell || d.text.length = 2)

/-- Writes a place. -/
def emitDirective (family : Family) (d : Directive) : Print Unit := do
  let style ← styleOf family d
  match d.letter with
  | none =>
    throw (.refused (if family = .disk then
      s!"{String.ofList d.text}: invalid conversion specification" else "missing format character"))
  | some letter =>
    if d.isEscaped family then emitEscaped family style ((← nextArg?).getD "")
    else if d.isKnown family letter then emitValue family style letter ((← nextArg?).getD "")
    else
      let wrong :=
        if family = .disk then "invalid conversion specification" else "invalid directive"
      throw (.refused s!"{String.ofList d.text}: {wrong}")

/-- Writes a format once. Each round passes at least one character. -/
def emitOnce (family : Family) : Nat → List Char → Print Unit
  | 0, _ | _, [] => pure ()
  | fuel + 1, '%' :: '%' :: cs => do
    emit ['%']
    emitOnce family fuel cs
  | fuel + 1, '%' :: cs => do
    let (d, rest) := readDirective family cs
    emitDirective family d
    emitOnce family fuel rest
  | fuel + 1, '\\' :: cs =>
    match readEscape family .format cs with
    | .stop => throw .stopped
    | .refused message => throw (.refused message)
    | .chars written rest => do
      emit written
      emitOnce family fuel rest
  | fuel + 1, c :: cs => do
    emit [c]
    emitOnce family fuel cs

/-- Writes a format until all arguments are used, or until it uses none. -/
def emitAll (family : Family) (format : List Char) : Nat → Print Unit
  | 0 => pure ()
  | fuel + 1 => do
    let before := (← get).args.length
    emitOnce family (format.length + 1) format
    let after := (← get).args.length
    if 0 < after && after < before then emitAll family format fuel

/-- What `printf` writes, what it says, and its status. -/
structure Printed where
  text : String
  messages : List String
  status : Nat
  deriving Repr

/-- The status of a program that has been used wrongly. -/
def Family.misuse : Family → Nat
  | shell => 2
  | disk => 1

/-- What a format and arguments are written as. -/
def printf (family : Family) (format : String) (args : List String) : Printed :=
  match emitAll family format.toList (args.length + 1) { args } with
  | .ok () p =>
    let left :=
      match p.args with
      | arg :: _ =>
        if family = .disk then
          [s!"warning: ignoring excess arguments, starting with '{arg}'"] else []
      | [] => []
    ⟨String.ofList p.written, p.complaints ++ left, if p.hasFailed then 1 else 0⟩
  | .error .stopped p => ⟨String.ofList p.written, p.complaints, if p.hasFailed then 1 else 0⟩
  | .error (.refused message) p =>
    ⟨String.ofList p.written, p.complaints ++ [message], family.misuse⟩

/-! ### Lines -/

/-- Whether an argument is an option of the `echo` on disk. -/
def isEchoOption (arg : String) : Bool :=
  match arg.toList with
  | '-' :: c :: cs => (c :: cs).all fun c ↦ c = 'n' || c = 'e' || c = 'E'
  | _ => false

/-- What the `echo` on disk writes. -/
def diskEcho (args : List String) : List Char :=
  let options := (args.takeWhile isEchoOption).flatMap String.toList
  let text := (" ".intercalate (args.dropWhile isEchoOption)).toList
  let u : Unescaped :=
    if (options.filter (· ≠ 'n')).getLast? = some 'e' then unescape .disk .line text
    else { written := text }
  if u.goesOn && 'n' ∉ options then u.written ++ ['\n'] else u.written

/-- What the `echo` of a shell writes. It always replaces escapes. -/
def shellEcho (args : List String) : List Char :=
  let isQuiet := args.head? = some "-n"
  let u := unescape .shell .line (" ".intercalate (if isQuiet then args.tail else args)).toList
  if u.goesOn && !isQuiet then u.written ++ ['\n'] else u.written

end NetReconcile.Shell
