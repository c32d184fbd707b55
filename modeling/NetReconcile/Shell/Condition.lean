import NetReconcile.FileTree.Call
import NetReconcile.Shell.Escape

/-!
# Conditions

`test` says by its status whether a condition holds that its arguments spell. An argument can be an
operator or an operand, depending on how many follow it: an operator with one operand is an operand
itself if nothing follows, or if an operator with two operands does.

## Main definitions

* `TestFault`: what can be wrong with a condition.
* `evaluateTest`: whether a condition holds.
-/

namespace NetReconcile

namespace Shell

/-- What can be wrong with a condition. -/
inductive TestFault
  | notANumber (arg : String)
  | noArgument (op : String)
  | unexpected (arg : String)
  | noBracket
  /-- The bracket that the program is called by is not closed. -/
  | unclosed
  deriving DecidableEq, Repr

/-- The wording of what is wrong with a condition in a shell. -/
def TestFault.message : TestFault → String
  | notANumber arg => s!"Illegal number: {arg}"
  | noArgument op => s!"{op}: argument expected"
  | unexpected "" => "unexpected operator"
  | unexpected arg => s!"{arg}: unexpected operator"
  | noBracket => "closing paren expected"
  | unclosed => "missing ]"

/-- The wording of what is wrong with a condition on disk, given all arguments. -/
def TestFault.diskMessage (args : List String) : TestFault → String
  | notANumber arg => s!"invalid integer '{arg}'"
  | unclosed => "missing ']'"
  | _ =>
    match args with
    | [a, b] =>
      if a.startsWith "-" && a.length = 2 then s!"'{a}': unary operator expected"
      else s!"missing argument after '{b}'"
    | [_, b, _] => s!"'{b}': binary operator expected"
    | args =>
      let last := args.getLast?.getD ""
      s!"extra argument '{last}'"

/-- What an argument can be. -/
inductive TestToken
  | unary
  | binary
  | negation
  | conjunction
  | disjunction
  | opening
  | closing
  | operand
  | finished
  deriving DecidableEq, Repr

/-- The operators with one operand. -/
def unaryTests : List String :=
  ["-r", "-w", "-x", "-e", "-f", "-d", "-c", "-b", "-p", "-u", "-g", "-k", "-s", "-t", "-z", "-n",
    "-h", "-L", "-O", "-G", "-S"]

/-- The operators with two operands. -/
def binaryTests : List String :=
  ["=", "!=", "<", ">", "-eq", "-ne", "-ge", "-gt", "-le", "-lt", "-nt", "-ot", "-ef"]

/-- What the first of some arguments is. -/
def testToken : List String → TestToken
  | [] => .finished
  | s :: rest =>
    if s ∈ unaryTests then
      match rest with
      | [] => .operand
      | [_] => .unary
      | next :: _ => if next ∈ binaryTests then .operand else .unary
    else if s ∈ binaryTests then .binary
    else
      match s with
      | "!" => .negation
      | "-a" => .conjunction
      | "-o" => .disjunction
      | "(" => if rest.isEmpty then .operand else .opening
      | ")" => .closing
      | _ => .operand

/-- What conditions are about, and how their numbers are read. -/
structure TestHost where
  /-- Whether numbers have to fit into 64 bits. -/
  isBounded : Bool
  /-- Whether a file is what an operator asks for. -/
  isFile : (op path : String) → Bool
  /-- Whether two paths lead to the same. -/
  areSame : (a b : String) → Bool

/-- The number that an argument spells in base ten. -/
def testNumber (h : TestHost) (arg : String) : Except TestFault Int :=
  let fits (n : Int) : Bool := !h.isBounded || (-wordMax - 1 ≤ n && n ≤ wordMax)
  match readWhole true arg.toList with
  | some (n, rest) => if rest.all isSpace && fits n then .ok n else .error (.notANumber arg)
  | none => .error (.notANumber arg)

/-- Whether an operator with one operand holds. -/
def unaryTest (h : TestHost) (op arg : String) : Except TestFault Bool :=
  match op with
  | "-z" => .ok (arg = "")
  | "-n" => .ok (arg ≠ "")
  | "-t" => (testNumber h arg).map fun _ ↦ false
  | _ => .ok (h.isFile op arg)

/-- Whether an operator with two operands holds. -/
def binaryTest (h : TestHost) (op a b : String) : Except TestFault Bool :=
  let compare (holds : Int → Int → Bool) := do
    let m ← testNumber h a
    let n ← testNumber h b
    return holds m n
  match op with
  | "=" => .ok (a = b)
  | "!=" => .ok (a ≠ b)
  | "<" => .ok (a < b)
  | ">" => .ok (b < a)
  | "-eq" => compare (· = ·)
  | "-ne" => compare (· ≠ ·)
  | "-ge" => compare (· ≥ ·)
  | "-gt" => compare (· > ·)
  | "-le" => compare (· ≤ ·)
  | "-lt" => compare (· < ·)
  | "-ef" => .ok (h.areSame a b)
  | _ => .ok false

/-- A condition that has been read, and the arguments left. -/
abbrev TestResult :=
  Except TestFault (Bool × List String)

mutual

/-- Evaluates conditions one of which has to hold. -/
def testEither (h : TestHost) : Nat → List String → TestResult
  | 0, args => .ok (false, args)
  | fuel + 1, args => do
    let (a, rest) ← testBoth h fuel args
    match testToken rest with
    | .disjunction =>
      let (b, rest) ← testEither h fuel rest.tail
      return (a || b, rest)
    | _ => return (a, rest)

/-- Evaluates conditions all of which have to hold. -/
def testBoth (h : TestHost) : Nat → List String → TestResult
  | 0, args => .ok (false, args)
  | fuel + 1, args => do
    let (a, rest) ← testNegation h fuel args
    match testToken rest with
    | .conjunction =>
      let (b, rest) ← testBoth h fuel rest.tail
      return (a && b, rest)
    | _ => return (a, rest)

/-- Evaluates a condition that may be negated. -/
def testNegation (h : TestHost) : Nat → List String → TestResult
  | 0, args => .ok (false, args)
  | fuel + 1, args =>
    match testToken args with
    | .negation => do
      let (a, rest) ← testNegation h fuel args.tail
      return (!a, rest)
    | _ => testPrimary h fuel args

/-- Evaluates a condition without operators between conditions. -/
def testPrimary (h : TestHost) : Nat → List String → TestResult
  | 0, args => .ok (false, args)
  | fuel + 1, args =>
    match args with
    | [] => .ok (false, [])
    | s :: rest =>
      match testToken args with
      | .opening => do
        if testToken rest = .closing then return (false, rest.tail)
        let (a, rest) ← testEither h fuel rest
        if testToken rest = .closing then return (a, rest.tail)
        throw .noBracket
      | .unary =>
        match rest with
        | [] => .error (.noArgument s)
        | arg :: rest => do return (← unaryTest h s arg, rest)
      | _ =>
        match testToken rest, rest with
        | .binary, op :: b :: rest => do return (← binaryTest h op s b, rest)
        | .binary, [op] => .error (.noArgument op)
        | _, _ => .ok (s ≠ "", rest)

end

/-- Evaluates a condition that all arguments are part of. Before what is left over, the last
argument that is part of it is complained about. -/
def testAll (h : TestHost) (args : List String) : Except TestFault Bool := do
  let (a, rest) ← testEither h (4 * args.length + 4) args
  match rest, args[args.length - rest.length - 1]? with
  | _ :: _, some last => throw (.unexpected last)
  | _, _ => return a

/-- Whether a condition holds. Three or four arguments are read by what stands in the middle and at
the ends. -/
def evaluateTest (h : TestHost) : List String → Except TestFault Bool
  | [] => .ok false
  | [a, op, b] =>
    if op ∈ binaryTests then binaryTest h op a b
    else if a = "(" && b = ")" then testAll h [op]
    else if a = "!" then (evaluateTwo [op, b]).map (!·)
    else testAll h [a, op, b]
  | [a, b, c, d] =>
    if a = "(" && d = ")" then testAll h [b, c]
    else if a = "!" then (evaluateThree b c d).map (!·)
    else testAll h [a, b, c, d]
  | args => testAll h args
where
  evaluateTwo (args : List String) : Except TestFault Bool :=
    testAll h args
  evaluateThree (a op b : String) : Except TestFault Bool :=
    if op ∈ binaryTests then binaryTest h op a b
    else if a = "(" && b = ")" then testAll h [op]
    else if a = "!" then (evaluateTwo [op, b]).map (!·)
    else testAll h [a, op, b]

/-! ### Files -/

/-- What a tree says about a file. Nobody is refused to read or to write. -/
def TestHost.ofFiles (isBounded : Bool) (t : FileTree) : TestHost where
  isBounded
  isFile op path :=
    let p : FilePath := ⟨toText path⟩
    let node := (t.openPath p).toOption.bind t.get?
    match op with
    | "-h" | "-L" => (t.readLink? p).isSome
    | "-e" | "-r" | "-w" | "-O" | "-G" => node.isSome
    | "-f" =>
      match node with
      | some (.file ..) => true
      | _ => false
    | "-d" =>
      match node with
      | some (.directory _) => true
      | _ => false
    | "-s" =>
      match node with
      | some (.file bytes _) => !bytes.isEmpty
      | some (.directory _) => true
      | _ => false
    | "-x" =>
      match node with
      | some (.file _ isExecutable) => isExecutable
      | some (.directory _) => true
      | _ => false
    | _ => false
  areSame a b :=
    match t.openPath ⟨toText a⟩, t.openPath ⟨toText b⟩ with
    | .ok loc, .ok loc' => loc = loc'
    | _, _ => false

end Shell

end NetReconcile
