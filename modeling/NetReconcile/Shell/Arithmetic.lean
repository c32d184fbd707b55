import NetReconcile.Shell.Number

/-!
# Arithmetic

An expression over whole numbers of 64 bits has operators that calculate, compare, work on bits,
choose and assign; multiplying binds tightest of those with two operands, and assigning least. A
name stands for the number that its value spells, or for zero. What is not evaluated, because a
choice has been made the other way, is neither wrong nor assigned.

## Main definitions

* `Expr`: an expression.
* `Expr.ofText`: the expression that a text spells.
* `Expr.evaluate`: its value, and what it assigns.
-/

namespace NetReconcile.Shell

/-- An operator with two operands that are both evaluated. -/
inductive Operator
  | add | subtract | multiply | divide | remainder
  | shiftLeft | shiftRight
  | less | atMost | more | atLeast | equal | unequal
  | bitAnd | bitXor | bitOr
  deriving DecidableEq, Repr

/-- An operator with one operand. -/
inductive UnaryOperator
  | negate | isZero | complement
  deriving DecidableEq, Repr

/-- An expression. -/
inductive Expr
  | number (n : Int)
  | name (s : String)
  | unary (op : UnaryOperator) (e : Expr)
  | binary (op : Operator) (a b : Expr)
  | both (a b : Expr)
  | either (a b : Expr)
  | choice (test a b : Expr)
  /-- An assignment, which may combine the old value with a new one. -/
  | assign (s : String) (op : Option Operator) (e : Expr)
  deriving Repr

/-- What can be wrong with an expression. -/
inductive ArithmeticFault
  | noPrimary
  | noEnd
  | noColon
  | noBracket
  | divisionByZero
  | notANumber (value : String)
  deriving DecidableEq, Repr

/-- The wording of what is wrong with an expression. -/
def ArithmeticFault.message (text : String) : ArithmeticFault → String
  | noPrimary => s!"arithmetic expression: expecting primary: \"{text}\""
  | noEnd => s!"arithmetic expression: expecting EOF: \"{text}\""
  | noColon => s!"arithmetic expression: expecting ':': \"{text}\""
  | noBracket => s!"arithmetic expression: expecting ')': \"{text}\""
  | divisionByZero => s!"arithmetic expression: division by zero: \"{text}\""
  | notANumber value => s!"Illegal number: {value}"

namespace Expr

/-! ### Tokens -/

/-- A token of an expression. -/
inductive Token
  | number (n : Int)
  | name (s : String)
  | mark (s : String)
  deriving DecidableEq, Repr

/-- The marks of expressions. A longer one comes before those that it starts with. -/
def marks : List String :=
  ["<<=", ">>=", "<<", ">>", "<=", ">=", "==", "!=", "&&", "||", "+=", "-=", "*=", "/=", "%=", "&=",
    "^=", "|=", "+", "-", "*", "/", "%", "<", ">", "&", "^", "|", "!", "~", "=", "?", ":", "(", ")"]

/-- Whether a character can start a name. -/
def startsName (c : Char) : Bool :=
  c.isAlpha || c = '_'

/-- Whether a character can be part of a name. -/
def continuesName (c : Char) : Bool :=
  c.isAlphanum || c = '_'

/-- The tokens of a text. A character that starts none is a mark that nothing expects. -/
def tokens : Nat → List Char → List Token
  | 0, _ | _, [] => []
  | fuel + 1, c :: cs =>
    if isSpace c then tokens fuel cs
    else if startsName c then
      let name := (c :: cs).takeWhile continuesName
      .name (String.ofList name) :: tokens fuel ((c :: cs).drop name.length)
    else
      match if c.isDigit then readWhole false (c :: cs) else none with
      | some (n, rest) => .number (max (-wordMax - 1) (min wordMax n)) :: tokens fuel rest
      | none =>
        match marks.find? fun m ↦ m.toList.isPrefixOf (c :: cs) with
        | some m => .mark m :: tokens fuel ((c :: cs).drop m.length)
        | none => .mark (String.singleton c) :: tokens fuel cs

/-! ### Reading -/

/-- The levels of operators, the loosest first. -/
def levels : List (List (String × Operator)) :=
  [[("|", .bitOr)], [("^", .bitXor)], [("&", .bitAnd)], [("==", .equal), ("!=", .unequal)],
    [("<", .less), ("<=", .atMost), (">", .more), (">=", .atLeast)],
    [("<<", .shiftLeft), (">>", .shiftRight)], [("+", .add), ("-", .subtract)],
    [("*", .multiply), ("/", .divide), ("%", .remainder)]]

/-- The operators of assignments. -/
def assignments : List (String × Option Operator) :=
  [("=", none), ("+=", some .add), ("-=", some .subtract), ("*=", some .multiply),
    ("/=", some .divide), ("%=", some .remainder), ("<<=", some .shiftLeft),
    (">>=", some .shiftRight), ("&=", some .bitAnd), ("^=", some .bitXor), ("|=", some .bitOr)]

/-- The operators with one operand. A plus sign has no effect. -/
def unaries : List (String × UnaryOperator) :=
  [("-", .negate), ("!", .isZero), ("~", .complement)]

/-- A step of reading: what has been read, and the tokens left. -/
abbrev Found :=
  Except ArithmeticFault (Expr × List Token)

/-- What follows a mark at the start of tokens. -/
def after? (m : String) : List Token → Option (List Token)
  | .mark n :: ts => if m = n then some ts else none
  | _ => none

mutual

/-- Reads an expression. -/
def readAssignment : Nat → List Token → Found
  | 0, _ => .error .noPrimary
  | fuel + 1, ts =>
    match ts with
    | .name s :: .mark m :: rest =>
      match assignments.lookup m with
      | some op => do
        let (e, rest) ← readAssignment fuel rest
        return (.assign s op e, rest)
      | none => readChoice fuel ts
    | _ => readChoice fuel ts

/-- Reads a choice, or what can stand before its question mark. -/
def readChoice : Nat → List Token → Found
  | 0, _ => .error .noPrimary
  | fuel + 1, ts => do
    let (test, rest) ← readEither fuel ts
    match after? "?" rest with
    | none => return (test, rest)
    | some rest =>
      let (a, rest) ← readAssignment fuel rest
      match after? ":" rest with
      | none => throw .noColon
      | some rest =>
        let (b, rest) ← readChoice fuel rest
        return (.choice test a b, rest)

/-- Reads operands of which one has to be true. -/
def readEither : Nat → List Token → Found
  | 0, _ => .error .noPrimary
  | fuel + 1, ts => do
    let (a, rest) ← readBoth fuel ts
    match after? "||" rest with
    | none => return (a, rest)
    | some rest =>
      let (b, rest) ← readEither fuel rest
      return (.either a b, rest)

/-- Reads operands all of which have to be true. -/
def readBoth : Nat → List Token → Found
  | 0, _ => .error .noPrimary
  | fuel + 1, ts => do
    let (a, rest) ← readLevel fuel levels ts
    match after? "&&" rest with
    | none => return (a, rest)
    | some rest =>
      let (b, rest) ← readBoth fuel rest
      return (.both a b, rest)

/-- Reads operands with operators of the given levels between them. -/
def readLevel : Nat → List (List (String × Operator)) → List Token → Found
  | 0, _, _ => .error .noPrimary
  | fuel + 1, [], ts => readPrimary fuel ts
  | fuel + 1, level :: tighter, ts => do
    let (a, rest) ← readLevel fuel tighter ts
    readMore fuel level tighter a rest

/-- Reads further operands of a level. Operators of one level bind to the left. -/
def readMore : Nat → List (String × Operator) → List (List (String × Operator)) → Expr →
    List Token → Found
  | 0, _, _, _, _ => .error .noPrimary
  | fuel + 1, level, tighter, a, ts =>
    match ts with
    | .mark m :: rest =>
      match level.lookup m with
      | some op => do
        let (b, rest) ← readLevel fuel tighter rest
        readMore fuel level tighter (.binary op a b) rest
      | none => return (a, ts)
    | _ => return (a, ts)

/-- Reads an operand. -/
def readPrimary : Nat → List Token → Found
  | 0, _ => .error .noPrimary
  | fuel + 1, ts =>
    match ts with
    | .number n :: rest => return (.number n, rest)
    | .name s :: rest => return (.name s, rest)
    | .mark "(" :: rest => do
      let (e, rest) ← readAssignment fuel rest
      match after? ")" rest with
      | some rest => return (e, rest)
      | none => throw .noBracket
    | .mark "+" :: rest => readPrimary fuel rest
    | .mark m :: rest =>
      match unaries.lookup m with
      | some op => do
        let (e, rest) ← readPrimary fuel rest
        return (.unary op e, rest)
      | none => throw .noPrimary
    | [] => throw .noPrimary

end

/-- The expression that a text spells. A text without tokens is zero. One operand is read through as
many functions as there are levels. -/
def ofText (text : List Char) : Except ArithmeticFault Expr := do
  let ts := tokens (text.length + 1) text
  let (e, rest) ← readAssignment ((levels.length + 6) * (ts.length + 2)) ts
  if rest.isEmpty then return e else throw .noEnd

/-! ### Evaluating -/

/-- A truth value as a number. -/
def ofBool (b : Bool) : Int :=
  if b then 1 else 0

/-- The word of 64 bits that is a number. -/
def word (n : Int) : Int64 :=
  Int64.ofInt n

/-- The value of an operator with two operands. -/
def apply (op : Operator) (a b : Int) : Except ArithmeticFault Int :=
  match op with
  | .add => .ok (wrap (a + b))
  | .subtract => .ok (wrap (a - b))
  | .multiply => .ok (wrap (a * b))
  | .divide => if b = 0 then .error .divisionByZero else .ok (wrap (a.tdiv b))
  | .remainder => if b = 0 then .error .divisionByZero else .ok (a.tmod b)
  | .shiftLeft => .ok (word a <<< word b).toInt
  | .shiftRight => .ok (word a >>> word b).toInt
  | .less => .ok (ofBool (a < b))
  | .atMost => .ok (ofBool (a ≤ b))
  | .more => .ok (ofBool (b < a))
  | .atLeast => .ok (ofBool (b ≤ a))
  | .equal => .ok (ofBool (a = b))
  | .unequal => .ok (ofBool (a ≠ b))
  | .bitAnd => .ok (word a &&& word b).toInt
  | .bitXor => .ok (word a ^^^ word b).toInt
  | .bitOr => .ok (word a ||| word b).toInt

/-- The value of an operator with one operand. -/
def applyUnary (op : UnaryOperator) (a : Int) : Int :=
  match op with
  | .negate => wrap (-a)
  | .isZero => ofBool (a = 0)
  | .complement => (~~~ (word a)).toInt

/-- The number that a value spells. -/
def numberOf (value : String) : Except ArithmeticFault Int :=
  match readWhole false value.toList with
  | some (n, rest) =>
    if rest.all isSpace && -wordMax - 1 ≤ n && n ≤ wordMax then .ok n
    else .error (.notANumber value)
  | none => if value.toList.all isSpace then .ok 0 else .error (.notANumber value)

/-- Evaluation with what has been assigned so far, the latest first. -/
abbrev Evaluation :=
  StateT (List (String × Int)) (Except ArithmeticFault)

/-- The value of a name. -/
def look (values : String → String) (s : String) : Evaluation Int := do
  match (← get).lookup s with
  | some n => return n
  | none => numberOf (values s)

/-- The value of an expression, given the values of names. -/
def evaluate (values : String → String) : Expr → Evaluation Int
  | number n => return n
  | name s => look values s
  | unary op e => return applyUnary op (← evaluate values e)
  | binary op a b => do
    let m ← evaluate values a
    let n ← evaluate values b
    apply op m n
  | both a b => do
    if (← evaluate values a) = 0 then return 0
    return ofBool ((← evaluate values b) ≠ 0)
  | either a b => do
    if (← evaluate values a) ≠ 0 then return 1
    return ofBool ((← evaluate values b) ≠ 0)
  | choice test a b => do
    if (← evaluate values test) ≠ 0 then evaluate values a else evaluate values b
  | assign s op e => do
    let n ← evaluate values e
    let m ← match op with
      | none => pure n
      | some op => do
        let old ← look values s
        apply op old n
    modify ((s, m) :: ·)
    return m

end Expr

/-- The value of a text as an expression, and what it assigns, the latest first. -/
def arithmetic (values : String → String) (text : List Char) :
    Except ArithmeticFault (Int × List (String × Int)) := do
  (Expr.evaluate values (← Expr.ofText text)).run []

end NetReconcile.Shell
