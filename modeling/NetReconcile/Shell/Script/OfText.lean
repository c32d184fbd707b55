import NetReconcile.Shell.Arithmetic
import NetReconcile.Shell.Script.Basic

/-!
# Reading scripts

A script is read token by token, and the commands of a line at a time. Quotes and substitutions are
read together with the word they are in, and a substitution holds commands, so words and commands
are read by functions that need each other. They get each other as arguments: `Nested` holds what is
needed for what stands inside, and `nested` ties the knot as deep as the text can nest.

A text that a redirection takes from the script itself stands on the lines after it. It is kept by
number, and its number is known before its lines are read.

## Main definitions

* `Reader`: what is left of a script, and what has been read ahead.
* `ScriptFault`: why a script cannot be read.
* `readLine`: the commands of the next line.
-/

namespace NetReconcile.Shell

/-! ### Tokens and faults -/

/-- A token of a script. -/
inductive Token
  | endOfFile
  | newline
  | mark (m : String)
  /-- A word that is not quoted and means something where a command can stand. -/
  | keyword (k : String)
  | redirect (stream : Option Nat) (mark : String)
  | word (w : Word)

/-- How a message names a token. -/
def Token.title : Token → String
  | endOfFile => "end of file"
  | newline => "newline"
  | mark m => s!"\"{m}\""
  | keyword k => s!"\"{k}\""
  | redirect .. => "redirection"
  | word _ => "word"

/-- The words that mean something where a command can stand. -/
def keywords : List String :=
  ["!", "case", "do", "done", "elif", "else", "esac", "fi", "for", "if", "in", "then", "until",
    "while", "\x7b", "\x7d"]

/-- A token where keywords are looked for. -/
def Token.classified : Token → Token
  | word w =>
    match (literal? w).filter (· ∈ keywords) with
    | some k => keyword k
    | none => word w
  | t => t

/-- Why a script cannot be read. -/
inductive ScriptFault
  | unexpected (found : String) (expected : Option String)
  | openQuote
  | openBrace
  | openArithmetic
  | openBackquote
  | badLoopVariable
  | badFunctionName
  | tooDeep
  deriving DecidableEq, Repr

/-- The wording of why a script cannot be read. -/
def ScriptFault.message : ScriptFault → String
  | unexpected found none => s!"{found} unexpected"
  | unexpected found (some expected) => s!"{found} unexpected (expecting {expected})"
  | openQuote => "Unterminated quoted string"
  | openBrace => "Missing '\x7d'"
  | openArithmetic => "Missing '))'"
  | openBackquote => "EOF in backquote substitution"
  | badLoopVariable => "Bad for loop variable"
  | badFunctionName => "Bad function name"
  | tooDeep => "Out of space"

/-- A text on later lines that a redirection waits for. -/
structure Awaited where
  index : Nat
  /-- The line that ends the text. -/
  mark : String
  dropsTabs : Bool
  /-- Whether the text is taken as it is. -/
  isLiteral : Bool

/-- What is left of a script, and what has been read ahead. -/
structure Reader where
  rest : List Char
  line : Nat := 1
  /-- The line that texts between backquotes are counted from. -/
  base : Nat := 1
  held : Option Token := none
  documents : Array Word := #[]
  awaited : List Awaited := []

/-- A step of reading. -/
abbrev Read :=
  EStateM ScriptFault Reader

/-- Repeats a step until it has an answer. -/
def untilFound {σ α : Type} (step : σ → Read (σ ⊕ α)) : Nat → σ → Read α
  | 0, _ => throw .tooDeep
  | fuel + 1, s => do
    match ← step s with
    | .inl s => untilFound step fuel s
    | .inr a => return a

/-- Repeats a step that passes at least one character, or ends. -/
def loop {σ α : Type} (step : σ → Read (σ ⊕ α)) (s : σ) : Read α := do
  untilFound step ((← get).rest.length + 3) s

/-! ### Characters -/

/-- Passes line breaks after a backslash, which a script does without. -/
def passContinuations (line : Nat) : List Char → List Char × Nat
  | '\\' :: '\n' :: cs => passContinuations (line + 1) cs
  | cs => (cs, line)

/-- The next character, which is not passed. -/
def peekChar : Read (Option Char) :=
  modifyGet fun r ↦
    let (rest, line) := passContinuations r.line r.rest
    (rest.head?, { r with rest, line })

/-- Passes a number of characters. -/
def passChars (n : Nat) : Read (List Char) :=
  modifyGet fun r ↦
    let cs := r.rest.take n
    (cs, { r with rest := r.rest.drop n, line := r.line + cs.count '\n' })

/-- Passes the next character. -/
def passChar : Read Unit :=
  discard (passChars 1)

/-- Passes the next character if it is the given one. -/
def passIf (c : Char) : Read Bool := do
  if (← peekChar) = some c then
    passChar
    return true
  else return false

/-- Where pieces stand. -/
inductive Context
  | bare
  /-- A word that ends a text of the script, in which nothing is replaced. -/
  | endMark
  | double
  /-- A text of the script itself. -/
  | document
  | braced (isQuoted : Bool)
  | arithmetic
  deriving DecidableEq

/-- Whether quotes around a place keep what is replaced in it together. -/
def Context.isQuoting : Context → Bool
  | bare | endMark | braced false => false
  | double | document | braced true | arithmetic => true

/-- Whether a character ends a word. -/
def endsWord (c : Char) : Bool :=
  c ∈ [' ', '\t', '\n', ';', '&', '|', '<', '>', '(', ')']

/-- What reading something needs for what stands inside it. -/
structure Nested where
  pieces : Context → Read Word
  /-- The commands inside a command or a substitution. Only in a substitution, they may be none. -/
  list : (mayBeNone : Bool) → Read (Option Command)
  command : Read (Option Command)

/-! ### Substitutions -/

/-- The parameters that are named by a mark. -/
def specialNames : List Char :=
  ['@', '*', '#', '?', '-', '$', '!']

/-- Splits a parameter off a text. A number has one digit unless it stands in braces. -/
def splitName (isBraced : Bool) : List Char → Option (String × List Char)
  | [] => none
  | c :: cs =>
    let run (p : Char → Bool) :=
      let name := (c :: cs).takeWhile p
      some (String.ofList name, (c :: cs).drop name.length)
    if Expr.startsName c then run Expr.continuesName
    else if c.isDigit && isBraced then run Char.isDigit
    else if c.isDigit || c ∈ specialNames then some (String.singleton c, cs)
    else none

/-- The actions that a mark after a parameter stands for. -/
def absences : List (Char × Absence) :=
  [('-', .substitute), ('=', .assign), ('?', .refuse), ('+', .keep)]

/-- Reads the rest of a word in braces that ends a substitution. -/
def readUse (n : Nested) (isQuoted : Bool) (make : Word → Use) : Read Use := do
  return make (← n.pieces (.braced isQuoted))

/-- Reads how a parameter in braces is used, up to the closing brace. -/
def readUsage (n : Nested) (isQuoted : Bool) : Read Use := do
  let fault : ScriptFault := if isQuoted then .openQuote else .openBrace
  let some c ← peekChar | throw fault
  if c = '\x7d' then
    passChar
    return .value
  if c = '#' || c = '%' then
    passChar
    let isLongest ← passIf c
    return ← readUse n false (.without (c = '%') isLongest)
  let orEmpty ← passIf ':'
  let some d ← peekChar | throw fault
  match absences.lookup d with
  | some absence =>
    passChar
    readUse n isQuoted (.orElse absence orEmpty)
  | none => readUse n isQuoted fun _ ↦ .unknown

/-- The name of a parameter in braces whose length is asked for, if that is how a text starts. What
follows the name is checked only where the name does not start with a mark. -/
def lengthName? : List Char → Option String
  | '#' :: cs =>
    match splitName true cs with
    | some (name, rest) =>
      if name.toList.head?.any (· ∈ specialNames) && rest.head? ≠ some '\x7d' then none
      else some name
    | none => none
  | _ => none

/-- Reads a parameter in braces after its opening brace. -/
def readBraced (n : Nested) (isQuoted : Bool) : Read Piece := do
  discard peekChar
  match lengthName? (← get).rest with
  | some name =>
    discard (passChars (name.length + 1))
    if ← passIf '\x7d' then return .parameter name .length isQuoted
    return .parameter name (← readUse n isQuoted fun _ ↦ .unknown) isQuoted
  | none =>
    match splitName true (← get).rest with
    | some (name, _) =>
      discard (passChars name.length)
      return .parameter name (← readUsage n isQuoted) isQuoted
    | none => return .parameter "" (← readUse n isQuoted fun _ ↦ .unknown) isQuoted

/-- Reads something with nothing read ahead, and restores what had been. -/
def aside {α : Type} (act : Read α) : Read α := do
  let before ← get
  set { before with held := none, awaited := [] }
  let a ← act
  modify fun r ↦ { r with held := before.held, awaited := before.awaited }
  return a

/-- Refuses the token that has been read ahead. -/
def refuse {α : Type} (t : Token) (expected : Option Token) : Read α :=
  throw (.unexpected t.title (expected.map (·.title)))

/-- Reads the commands of a substitution after its opening bracket. -/
def readOutput (n : Nested) (isQuoted : Bool) : Read Piece := aside do
  let body ← n.list true
  match (← get).held with
  | some (.mark ")") => return .output body isQuoted
  | t => refuse (t.getD .endOfFile) (some (.mark ")"))

/-- The text between backquotes, and what comes after it. A backslash in it is dropped before what
it is there for. -/
def backquoted? (isQuoted : Bool) : List Char → Option (List Char × List Char)
  | [] => none
  | '\\' :: c :: cs =>
    (backquoted? isQuoted cs).map fun (inner, rest) ↦
      if c = '\n' then (inner, rest)
      else if c = '\\' || c = '\x60' || c = '$' || (isQuoted && c = '"') then (c :: inner, rest)
      else ('\\' :: c :: inner, rest)
  | c :: cs =>
    if c = '\x60' then some ([], cs)
    else (backquoted? isQuoted cs).map fun (inner, rest) ↦ (c :: inner, rest)

/-- Reads the commands of a substitution after its opening backquote. -/
def readBackquoted (n : Nested) (isQuoted : Bool) : Read Piece := do
  let r ← get
  match backquoted? isQuoted r.rest with
  | none =>
    modify fun r ↦ { r with line := r.line + r.rest.count '\n' }
    throw .openBackquote
  | some (inner, rest) =>
    let passed := r.rest.take (r.rest.length - rest.length)
    let body ← aside do
      modify fun r ↦ { r with rest := inner, line := r.base }
      n.list true
    modify fun s ↦ { s with rest, line := r.line + passed.count '\n' }
    return .output body isQuoted

/-- Reads what stands after a dollar sign. A dollar sign before anything else is text. -/
def readDollar (n : Nested) (isQuoted : Bool) : Read Piece := do
  if ← passIf '(' then
    if ← passIf '(' then return .arithmetic (← n.pieces .arithmetic) isQuoted
    else readOutput n isQuoted
  else if ← passIf '\x7b' then readBraced n isQuoted
  else
    match splitName false (← get).rest with
    | some (name, _) =>
      discard (passChars name.length)
      return .parameter name .value isQuoted
    | none => return .text ['$'] isQuoted

/-! ### Words -/

/-- Whether a backslash in quotes is dropped before a character. -/
def Context.drops (ctx : Context) (c : Char) : Bool :=
  c = '\\' || c = '\x60' || c = '$' || (c = '"' && ctx ≠ .document) ||
    (c = '\x7d' && ctx = .braced true)

/-- Reads what stands after a backslash. -/
def readEscaped (ctx : Context) : Read Word := do
  match ← passChars 1 with
  | [c] =>
    if ctx.isQuoting && !ctx.drops c then return [.text ['\\', c] true]
    else return [.text [c] true]
  | _ => return [.text ['\\'] true]

/-- Reads a text between single quotes after the first of them. -/
def readSingle : Read Word := do
  let r ← get
  let inner := r.rest.takeWhile (· ≠ '\'')
  discard (passChars (inner.length + 1))
  if inner.length = r.rest.length then throw .openQuote
  return [.text inner true]

/-- Reads pieces between double quotes after the first of them. Alone, all arguments can be none. -/
def readDouble (n : Nested) : Read Word := do
  match ← n.pieces .double with
  | [.parameter "@" .value q] => return [.parameter "@" .value q]
  | w => return .text [] true :: w

/-- What is wrong where a script ends inside pieces, if anything is. -/
def Context.fault? : Context → Option ScriptFault
  | bare | endMark | document => none
  | double | braced true => some .openQuote
  | braced false => some .openBrace
  | arithmetic => some .openArithmetic

/-- Reads the piece that a character starts, as far as it is not read the same everywhere. -/
def readPiece (n : Nested) (ctx : Context) (c : Char) : Read Word := do
  passChar
  if c = '\\' then readEscaped ctx
  else if c = '\'' && !ctx.isQuoting then readSingle
  else if c = '"' && (!ctx.isQuoting || ctx = .braced true) then readDouble n
  else if c = '"' && ctx = .arithmetic then return []
  else if c = '$' && ctx ≠ .endMark then return [← readDollar n ctx.isQuoting]
  else if c = '\x60' && ctx ≠ .endMark then return [← readBackquoted n ctx.isQuoting]
  else return [.text [c] ctx.isQuoting]

/-- Whether a character ends pieces, if no bracket is open. A bracket ends arithmetic only if
another one follows. -/
def Context.endsAt (ctx : Context) (c : Char) : Bool :=
  match ctx with
  | bare | endMark => endsWord c
  | double => c = '"'
  | document => false
  | braced _ => c = '\x7d'
  | arithmetic => c = ')'

/-- Reads one more piece, or the end. `depth` is how many brackets are open. -/
def readMore (n : Nested) (ctx : Context) : Word × Nat → Read (Word × Nat ⊕ Word)
  | (w, depth) => do
    match ← peekChar with
    | none =>
      match ctx.fault? with
      | some fault => throw fault
      | none => return .inr w
    | some c =>
      if ctx.endsAt c && depth = 0 then
        match ctx with
        | .bare | .endMark | .document => return .inr w
        | .double | .braced _ =>
          passChar
          return .inr w
        | .arithmetic =>
          passChar
          if ← passIf ')' then return .inr w
          return .inl (w ++ [.text [c] true], 0)
      else
        let depth :=
          if ctx ≠ .arithmetic then depth
          else if c = '(' then depth + 1
          else if c = ')' then depth - 1
          else depth
        return .inl (w ++ (← readPiece n ctx c), depth)

/-- Reads pieces up to their end. -/
def readPieces (n : Nested) (ctx : Context) : Read Word := do
  return joinTexts (← loop (readMore n ctx) ([], 0))

/-! ### Tokens -/

/-- Passes blanks and comments. -/
def passBlanks : Read Unit := do
  loop (fun (_ : Unit) ↦ do
    match ← peekChar with
    | some c =>
      if c = ' ' || c = '\t' then
        passChar
        return .inl ()
      else if c = '#' then
        let r ← get
        discard (passChars (r.rest.takeWhile (· ≠ '\n')).length)
        return .inr ()
      else return .inr ()
    | none => return .inr ()) ()

/-- Reads the mark of a redirection after its first character. -/
def readRedirectMark (c : Char) : Read String := do
  let seconds := if c = '>' then ['>', '|', '&'] else ['<', '&', '>']
  match (← peekChar).filter (· ∈ seconds) with
  | none => return String.singleton c
  | some d =>
    passChar
    if c = '<' && d = '<' then
      if ← passIf '-' then return "<<-"
    return String.ofList [c, d]

/-- The stream that a word before the mark of a redirection names: none, or one digit. -/
def streamOf? : Word → Option (Option Nat)
  | [] => some none
  | [.text [c] false] => (Text.digit? 10 c).map some
  | _ => none

/-- Reads a word, or a redirection. -/
def readWordToken (n : Nested) (ctx : Context) : Read Token := do
  let w ← n.pieces ctx
  match (← peekChar).filter fun c ↦ c = '<' || c = '>' with
  | some c =>
    match streamOf? w with
    | some stream =>
      passChar
      return .redirect stream (← readRedirectMark c)
    | none => return .word w
  | none => return .word w

/-- Reads the next token of the text. -/
def readToken (n : Nested) (ctx : Context) : Read Token := do
  passBlanks
  match ← peekChar with
  | none => return .endOfFile
  | some '\n' =>
    passChar
    return .newline
  | some c =>
    if c = '(' || c = ')' then
      passChar
      return .mark (String.singleton c)
    else if c = '&' || c = '|' || c = ';' then
      passChar
      return .mark (if ← passIf c then String.ofList [c, c] else String.singleton c)
    else readWordToken n ctx

/-- The next token, which is not passed, if its word stands in a given place. -/
def peekTokenIn (n : Nested) (ctx : Context) (findsKeywords : Bool) : Read Token := do
  let t ←
    match (← get).held with
    | some t => pure t
    | none => readToken n ctx
  let t := if findsKeywords then t.classified else t
  modify fun r ↦ { r with held := some t }
  return t

/-- The next token, which is not passed. -/
def peekToken (n : Nested) (findsKeywords : Bool) : Read Token :=
  peekTokenIn n .bare findsKeywords

/-- Passes the token that has been read ahead. -/
def passToken : Read Unit :=
  modify fun r ↦ { r with held := none }

/-- Splits a line off a text. -/
def splitLine (cs : List Char) : List Char × List Char :=
  let line := cs.takeWhile (· ≠ '\n')
  (line, cs.drop (line.length + 1))

/-- The lines of a text up to one that is its end, and what comes after that. -/
def documentLines (a : Awaited) : Nat → List Char → List Char × List Char
  | 0, cs => ([], cs)
  | _ + 1, [] => ([], [])
  | fuel + 1, c :: cs =>
    let (line, rest) := splitLine (c :: cs)
    let line := if a.dropsTabs then line.dropWhile (· = '\t') else line
    if String.ofList line = a.mark then ([], rest)
    else
      let (more, after) := documentLines a fuel rest
      let isWhole := line.length < (c :: cs).length && '\n' ∈ (c :: cs)
      (line ++ (if isWhole then ['\n'] else []) ++ more, after)

/-- Reads one of the texts that redirections wait for. -/
def readDocument (n : Nested) (a : Awaited) : Read Unit := do
  let r ← get
  let (body, rest) := documentLines a (r.rest.length + 1) r.rest
  let passed := r.rest.take (r.rest.length - rest.length)
  let w ← if a.isLiteral then pure [.text body true] else aside do
    modify fun r ↦ { r with rest := body }
    n.pieces .document
  modify fun s ↦ { s with
    rest, line := r.line + passed.count '\n', documents := s.documents.setIfInBounds a.index w }

/-- Reads the texts that redirections wait for. -/
def readDocuments (n : Nested) : Read Unit := do
  let awaited := (← get).awaited
  modify fun r ↦ { r with awaited := [] }
  awaited.forM (readDocument n)

/-- The next token after line breaks, which is not passed. -/
def peekPastNewlines (n : Nested) : Read Token :=
  loop (fun (_ : Unit) ↦ do
    match ← peekToken n true with
    | .newline =>
      passToken
      readDocuments n
      return .inl ()
    | t => return .inr t) ()

/-- Passes a keyword or a mark after which something else has to come, and refuses all others. -/
def demand (n : Nested) (wanted : Token) : Read Unit := do
  let t ← peekToken n true
  if t.title = wanted.title then passToken else refuse t (some wanted)

/-! ### Redirections -/

/-- The text of a word without its quotes. -/
def plainText (w : Word) : String :=
  String.ofList (w.flatMap fun
    | .text cs _ => cs
    | _ => [])

/-- Whether some of a word is quoted. -/
def hasQuotes (w : Word) : Bool :=
  w.any fun
    | .text _ q => q
    | _ => false

/-- Starts to wait for a text on later lines. -/
def awaitDocument (w : Word) (dropsTabs : Bool) : Read Nat :=
  modifyGet fun r ↦
    let index := r.documents.size
    (index, { r with
      documents := r.documents.push []
      awaited := r.awaited ++ [⟨index, plainText w, dropsTabs, hasQuotes w⟩] })

/-- Reads what a redirection leads to. -/
def readRedirect (n : Nested) (stream : Option Nat) (mark : String) : Read Redirect := do
  passToken
  let isDocument := mark = "<<" || mark = "<<-"
  match ← peekTokenIn n (if isDocument then .endMark else .bare) false with
  | .word w =>
    passToken
    let stream := stream.getD (if mark.startsWith "<" then 0 else 1)
    if isDocument then return .document stream (← awaitDocument w (mark = "<<-"))
    match mark with
    | ">&" | "<&" => return .duplicate stream w
    | ">>" => return .file stream .append w
    | "<>" => return .file stream .both w
    | "<" => return .file stream .read w
    | _ => return .file stream .write w
  | t => refuse t none

/-- Reads redirections as long as there are some. -/
def readRedirects (n : Nested) : Read (List Redirect) :=
  loop (fun (rs : List Redirect) ↦ do
    match ← peekToken n true with
    | .redirect stream mark => return .inl (rs ++ [← readRedirect n stream mark])
    | _ => return .inr rs) []

/-! ### Commands -/

/-- A parameter and its new value, if a word is an assignment. -/
def assignment? : Word → Option (String × Word)
  | .text cs false :: rest =>
    let name := cs.takeWhile Expr.continuesName
    match cs.drop name.length with
    | '=' :: value =>
      if name.head?.any Expr.startsName then
        some (String.ofList name, if value.isEmpty then rest else .text value false :: rest)
      else none
    | _ => none
  | _ => none

/-- Whether a text can be the name of a parameter or a function. -/
def isName (s : String) : Bool :=
  s.toList.head?.any Expr.startsName && s.toList.all Expr.continuesName

/-- What a shell does by itself even if a function has the name. -/
def specialBuiltins : List String :=
  [".", ":", "break", "continue", "eval", "exec", "exit", "export", "local", "readonly", "return",
    "set", "shift", "times", "trap", "unset"]

/-- What has been read of a simple command. -/
structure Simple where
  assignments : List (String × Word) := []
  words : List Word := []
  redirects : List Redirect := []

/-- Reads the body of a function after its name and the opening bracket. -/
def readDefinition (n : Nested) (name : Word) : Read (Option Command) := do
  passToken
  match ← peekToken n false with
  | .mark ")" => passToken
  | t => refuse t (some (.mark ")"))
  let some name := (literal? name).filter fun s ↦ isName s && s ∉ specialBuiltins
    | throw .badFunctionName
  discard (peekPastNewlines n)
  return (← n.command).map (.definition name)

/-- Reads a simple command, or the definition of a function. -/
def readSimple (n : Nested) : Read (Option Command) := do
  let line := (← get).line
  loop (fun (s : Simple) ↦ do
    match ← peekToken n false with
    | .word w =>
      passToken
      match if s.words.isEmpty then assignment? w else none with
      | some a => return .inl { s with assignments := s.assignments ++ [a] }
      | none => return .inl { s with words := s.words ++ [w] }
    | .redirect stream mark =>
      let r ← readRedirect n stream mark
      return .inl { s with redirects := s.redirects ++ [r] }
    | .mark "(" =>
      match s.words with
      | [name] =>
        if s.assignments.isEmpty && s.redirects.isEmpty then
          return .inr (← readDefinition n name)
        return .inr (some (.simple line s.assignments s.words s.redirects))
      | _ => return .inr (some (.simple line s.assignments s.words s.redirects))
    | _ => return .inr (some (.simple line s.assignments s.words s.redirects))) {}

/-- Reads the branches of a conditional after a test has been begun. -/
def readConditional (n : Nested) : Read (Option Command) := do
  let (branches, otherwise) ←
    loop (fun (branches : List (Option Command × Option Command)) ↦ do
      let test ← n.list false
      demand n (.keyword "then")
      let branches := branches ++ [(test, ← n.list false)]
      match ← peekToken n true with
      | .keyword "elif" =>
        passToken
        return .inl branches
      | .keyword "else" =>
        passToken
        return .inr (branches, ← n.list false)
      | _ => return .inr (branches, none)) []
  demand n (.keyword "fi")
  return branches.foldr (fun (test, body) rest ↦ some (.conditional test body rest)) otherwise

/-- Reads a loop with a test. -/
def readLoop (n : Nested) (isUntil : Bool) : Read (Option Command) := do
  let test ← n.list false
  demand n (.keyword "do")
  let body ← n.list false
  demand n (.keyword "done")
  return some (.loop isUntil test body)

/-- Reads words as long as there are some. -/
def readWords (n : Nested) : Read (List Word) :=
  loop (fun (ws : List Word) ↦ do
    match ← peekToken n false with
    | .word w =>
      passToken
      return .inl (ws ++ [w])
    | _ => return .inr ws) []

/-- Reads the words of a loop over words, which are all arguments if none are given. -/
def readLoopWords (n : Nested) : Read (List Word) := do
  match ← peekPastNewlines n with
  | .keyword "in" =>
    passToken
    let ws ← readWords n
    match ← peekToken n false with
    | .newline | .mark ";" => return ws
    | t => refuse t none
  | _ => return [[.parameter "@" .value true]]

/-- Reads a loop over words. -/
def readEach (n : Nested) (line : Nat) : Read (Option Command) := do
  let name ←
    match ← peekToken n false with
    | .word w =>
      let some name := (literal? w).filter isName | throw .badLoopVariable
      passToken
      pure name
    | _ => throw .badLoopVariable
  let ws ← readLoopWords n
  match ← peekToken n true with
  | .mark ";" => passToken
  | .newline =>
    passToken
    readDocuments n
  | _ => pure ()
  discard (peekPastNewlines n)
  demand n (.keyword "do")
  let body ← n.list false
  demand n (.keyword "done")
  return some (.each line name ws body)

/-- A token as a pattern of a choice. Keywords are words there. -/
def patternOf? : Token → Option Word
  | .word w => some w
  | .keyword k => some (wordOf k)
  | _ => none

/-- Reads the patterns of a branch up to the closing bracket. -/
def readPatterns (n : Nested) : Read (List Word) :=
  loop (fun (ps : List Word) ↦ do
    let t ← peekToken n false
    let some p := patternOf? t | refuse t (some (.mark ")"))
    passToken
    match ← peekToken n false with
    | .mark "|" =>
      passToken
      return .inl (ps ++ [p])
    | .mark ")" =>
      passToken
      return .inr (ps ++ [p])
    | t => refuse t (some (.mark ")"))) []

/-- Reads a choice. -/
def readChoice (n : Nested) (line : Nat) : Read (Option Command) := do
  let subject ←
    match ← peekToken n false with
    | .word w =>
      passToken
      pure w
    | t => refuse t (some (.word []))
  discard (peekPastNewlines n)
  demand n (.keyword "in")
  let branches ← loop (fun (bs : List (List Word × Option Command)) ↦ do
    match ← peekPastNewlines n with
    | .keyword "esac" => return .inr bs
    | t =>
      match t with
      | .mark "(" => passToken
      | _ => pure ()
      let ps ← readPatterns n
      let bs := bs ++ [(ps, ← n.list true)]
      match ← peekPastNewlines n with
      | .keyword "esac" => return .inr bs
      | .mark ";;" =>
        passToken
        return .inl bs
      | t => refuse t (some (.mark ";;"))) []
  passToken
  return some (.choice line subject branches)

/-- Adds redirections to a command. -/
def Command.redirectedTo (line : Nat) (body : Option Command) (rs : List Redirect) :
    Option Command :=
  match body, rs with
  | body, [] => body
  | some (.subshell l inner old), rs => some (.subshell l inner (old ++ rs))
  | body, rs => some (.redirected line body rs)

/-- Reads a command that is not a simple one, after its keyword. -/
def readCompound (n : Nested) (line : Nat) (k : String) : Read (Option Command) := do
  match k with
  | "if" => readConditional n
  | "while" => readLoop n false
  | "until" => readLoop n true
  | "for" => readEach n line
  | "case" => readChoice n line
  | _ =>
    let body ← n.list false
    demand n (.keyword "\x7d")
    return body

/-- The keywords that start a command. -/
def openers : List String :=
  ["if", "while", "until", "for", "case", "\x7b"]

/-- Reads a command. -/
def readCommand (n : Nested) : Read (Option Command) := do
  let line := (← get).line
  match ← peekToken n true with
  | .word _ | .redirect .. => readSimple n
  | .mark "(" =>
    passToken
    let body ← n.list false
    demand n (.mark ")")
    return Command.redirectedTo line (some (.subshell line body [])) (← readRedirects n)
  | .keyword k =>
    if k ∈ openers then
      passToken
      let body ← readCompound n line k
      return Command.redirectedTo line body (← readRedirects n)
    else refuse (.keyword k) none
  | t => refuse t none

/-- Reads commands with pipes between them. -/
def readPipeline (n : Nested) : Read (Option Command) := do
  let isNegated ←
    match ← peekToken n true with
    | .keyword "!" =>
      passToken
      pure true
    | _ => pure false
  let first ← readCommand n
  let parts ← loop (fun (parts : List Command) ↦ do
    match ← peekToken n true with
    | .mark "|" =>
      passToken
      discard (peekPastNewlines n)
      return .inl (parts ++ (← readCommand n).toList)
    | _ => return .inr parts) first.toList
  let whole :=
    match parts with
    | [] => none
    | [c] => some c
    | parts => some (.pipe parts)
  return if isNegated then whole.map .negated else whole

/-- Reads pipelines that depend on each other. -/
def readDependent (n : Nested) : Read (Option Command) := do
  let first ← readPipeline n
  loop (fun (c : Option Command) ↦ do
    match ← peekToken n true with
    | .mark m =>
      if m = "&&" || m = "||" then
        passToken
        discard (peekPastNewlines n)
        let d ← readPipeline n
        let join := if m = "&&" then Command.both else Command.either
        return .inl (match c, d with
          | some c, some d => some (join c d)
          | some c, none => some c
          | none, d => d)
      else return .inr c
    | _ => return .inr c) first

/-- What a list of commands stands in. -/
inductive ListKind
  | line
  /-- A command that holds at least one. -/
  | body
  /-- A substitution or a branch. -/
  | substitution
  deriving DecidableEq

/-- The tokens that end a list of commands. -/
def endsList : Token → Bool
  | .endOfFile => true
  | .mark m => m = ")" || m = ";;"
  | .keyword k => k ∈ ["do", "done", "elif", "else", "esac", "fi", "then", "\x7d"]
  | _ => false

/-- Puts a command after others. -/
def andThen (before : Option Command) (c : Option Command) : Option Command :=
  match before, c with
  | some b, some c => some (.sequence b c)
  | some b, none => some b
  | none, c => c

/-- Reads a list of commands. The token that ends it is not passed, except for the end of a line
that it is read for. -/
def readList (n : Nested) (kind : ListKind) : Read (Option Command) :=
  loop (fun (state : Option Command × Bool) ↦ do
    let (before, isFirst) := state
    match ← if kind = .line then peekToken n true else peekPastNewlines n with
    | .newline =>
      passToken
      readDocuments n
      return .inr before
    | .endOfFile =>
      readDocuments n
      return .inr before
    | t =>
      if endsList t && (kind = .substitution || (kind = .body && !isFirst)) then return .inr before
      let c ← readDependent n
      match ← peekToken n true with
      | .mark "&" =>
        passToken
        return .inl (andThen before (c.map .background), false)
      | .mark ";" =>
        passToken
        return .inl (andThen before c, false)
      | .newline => return .inl (andThen before c, false)
      | .endOfFile =>
        readDocuments n
        return .inr (andThen before c)
      | t => if kind = .line then refuse t none else return .inr (andThen before c)) (none, true)

/-! ### Nesting -/

/-- What reading something needs, given what reading what stands inside it needs. -/
def Nested.around (n : Nested) : Nested where
  pieces := readPieces n
  list mayBeNone := readList n (if mayBeNone then .substitution else .body)
  command := readCommand n

/-- What reading something needs that nests to a limited depth. -/
def nested : Nat → Nested
  | 0 => ⟨fun _ ↦ throw .tooDeep, fun _ ↦ throw .tooDeep, throw .tooDeep⟩
  | depth + 1 => (nested depth).around

/-- The commands of a line. -/
inductive Line
  | commands (body : Option Command)
  /-- There is no line any more. -/
  | finished

/-- Reads the commands of the next line. No text nests deeper than it is long. -/
def readLine : Read Line := do
  let n := nested ((← get).rest.length + 2)
  let body ← readList n .line
  match body, (← get).held with
  | none, some .endOfFile => return .finished
  | body, _ => return .commands body

end NetReconcile.Shell
