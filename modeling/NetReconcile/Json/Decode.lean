import NetReconcile.Json.Skip

/-!
# Reading values of a given type from JSON

Where the type of a value is known, it is read without an intermediate tree, so the first fault in
the order of the text is the one that is found. A value of a wrong kind is read far enough to name
it.

A record is written as an object, or as a list of its fields in order. Of an object, fields with
unknown names are passed over, and a field may stand only once.
-/

namespace NetReconcile.Json

variable {α β : Type}

/-! ### Values of a wrong kind -/

/-- Reads what can be named of a value. A list or an object is named by its first byte. -/
def found (b : UInt8) : Reader Found := do
  if b = byte 'n' then
    skip
    word ['u', 'l', 'l']
    return .null
  else if b = byte 't' then
    skip
    word ['r', 'u', 'e']
    return .bool true
  else if b = byte 'f' then
    skip
    word ['a', 'l', 's', 'e']
    return .bool false
  else if b = byte '-' then
    skip
    number false
  else if isDigit b then number true
  else if b = byte '"' then
    skip
    return .string (← string)
  else if b = byte '[' then return .sequence
  else if b = byte '\x7b' then return .map
  else failAhead .expectedValue

/-- Whether naming a value of this kind leaves the byte after it looked at: it does for numbers,
which end where something else begins, and for lists and objects, which are not entered. -/
def Found.looksAhead : Found → Bool
  | .unsigned _ | .negative _ | .float _ | .sequence | .map => true
  | .null | .bool _ | .string _ => false

/-- Fails because of a value of a wrong kind. -/
def wrongType (b : UInt8) (expected : String) : Reader α := do
  let f ← found b
  if f.looksAhead then failTaken (.invalidType f expected)
  else failHere (.invalidType f expected)

/-- The first byte of a value. -/
def valueToken : Reader UInt8 := do
  match ← token with
  | none => failAhead .eofValue
  | some b => return b

/-! ### Scalars -/

/-- Reads a string. -/
def stringValue (expected : String) : Reader String := do
  let b ← valueToken
  if b = byte '"' then
    skip
    string
  else wrongType b expected

/-- Reads a value that may be null. -/
def nullable (value : Reader α) : Reader (Option α) := do
  if (← token) = some (byte 'n') then
    skip
    word ['u', 'l', 'l']
    return none
  else return some (← value)

/-- Reads null. -/
def unit : Reader Unit := do
  let b ← valueToken
  if b = byte 'n' then
    skip
    word ['u', 'l', 'l']
  else wrongType b "unit"

/-- Reads the name of one of several alternatives, which starts with a quote. -/
def variantName (names : List (String × α)) (known : List String) : Reader α := do
  skip
  let name ← string
  match names.find? (·.1 = name) with
  | some (_, a) => return a
  | none => failHere (.unknownVariant name known)

/-- Goes to the key of an object that names an alternative. There has to be one. -/
def variantKey : Reader Unit := do
  match ← token with
  | none => failAhead .eofObject
  | some b =>
    if b = byte '\x7d' then failAhead .expectedValue
    else if b ≠ byte '"' then failAhead .keyNotString

/-- Reads one of several alternatives: its name, or an object that maps its name to null. -/
def variant (names : List (String × α)) (known : List String) : Reader α := do
  let b ← valueToken
  if b = byte '"' then variantName names known
  else if b = byte '\x7b' then
    skip
    variantKey
    let a ← variantName names known
    colon
    unit
    match ← token with
    | none => failHere .eofObject
    | some b =>
      if b = byte '\x7d' then
        skip
        return a
      else failTaken .expectedValue
  else failAhead .expectedValue

/-! ### Lists -/

/-- Goes to the next element of a list, if there is one, and says whether there is. -/
def toElement (first : Bool) : Reader Bool := do
  match ← token with
  | none => failAhead .eofList
  | some b =>
    if b = byte ']' then return false
    else if first then return true
    else if b = byte ',' then
      skip
      match ← token with
      | none => failAhead .eofValue
      | some b => if b = byte ']' then failAhead .trailingComma else return true
    else failAhead .expectedListCommaOrEnd

/-- Passes the end of a list. -/
def closeList : Reader Unit := do
  match ← token with
  | none => failAhead .eofList
  | some b =>
    if b = byte ']' then skip
    else if b = byte ',' then
      skip
      if (← token) = some (byte ']') then failAhead .trailingComma
      else failAhead .trailingCharacters
    else failAhead .trailingCharacters

/-- Reads the elements of a list. Each round passes at least one byte. -/
def elements (element : Reader α) : Nat → Bool → List α → Reader (List α)
  | 0, _, _ => failAhead .eofList
  | fuel + 1, first, read => do
    if ← toElement first then
      let a ← element
      elements element fuel false (read ++ [a])
    else return read

/-- Reads a list. -/
def list (element : Reader α) : Reader (List α) := do
  let b ← valueToken
  if b = byte '[' then
    skip
    let read ← elements element ((← get).rest.length + 1) true []
    closeList
    return read
  else wrongType b "a sequence"

/-- Reads the next field of a record that is written as a list, if the list has one. -/
def element? (first : Bool) (field : Reader α) : Reader (Option α) := do
  if ← toElement first then return some (← field) else return none

/-- Fails because a list has ended before a field of a record. -/
def tooShort (length : Nat) (expected : String) : Reader α := do
  closeList
  failHere (.invalidLength length expected)

/-- Reads a field that a record written as a list has to have. -/
def required (length : Nat) (expected : String) (field : Reader α) : Reader α := do
  match ← element? false field with
  | some a => return a
  | none => tooShort length expected

/-! ### Objects -/

/-- Goes to the next key of an object, if there is one, and says whether there is. -/
def toKey (first : Bool) : Reader Bool := do
  match ← token with
  | none => failAhead .eofObject
  | some b =>
    if b = byte '\x7d' then return false
    else if first then
      if b = byte '"' then return true else failAhead .keyNotString
    else if b = byte ',' then
      skip
      match ← token with
      | none => failAhead .eofValue
      | some b =>
        if b = byte '"' then return true
        else if b = byte '\x7d' then failAhead .trailingComma
        else failAhead .keyNotString
    else failAhead .expectedObjectCommaOrEnd

/-- Passes the end of an object. -/
def closeObject : Reader Unit := do
  match ← token with
  | none => failAhead .eofObject
  | some b =>
    if b = byte '\x7d' then skip
    else if b = byte ',' then failAhead .trailingComma
    else failAhead .trailingCharacters

/-- Reads the members of an object into a value. `member` is given the key, and reads the colon and
the value. Each round passes at least one byte. -/
def members (member : String → β → Reader β) : Nat → Bool → β → Reader β
  | 0, _, _ => failAhead .eofObject
  | fuel + 1, first, read => do
    if ← toKey first then
      skip
      let key ← string
      let read ← member key read
      members member fuel false read
    else return read

/-- Reads an object after its opening brace. -/
def objectBody (member : String → β → Reader β) (init : β) : Reader β := do
  let read ← members member ((← get).rest.length + 1) true init
  closeObject
  return read

/-- Reads an object with any keys. -/
def object (member : String → β → Reader β) (init : β) : Reader β := do
  let b ← valueToken
  if b = byte '\x7b' then
    skip
    objectBody member init
  else wrongType b "a map"

/-- Reads a record: an object of its fields, or a list of them. -/
def record (expected : String) (member : String → β → Reader β) (init : β)
    (fields : Reader β) : Reader β := do
  let b ← valueToken
  if b = byte '\x7b' then
    skip
    objectBody member init
  else if b = byte '[' then
    skip
    let read ← fields
    closeList
    return read
  else wrongType b expected

/-- Fails because a field stands twice. The place is after the object if that ends right there, and
otherwise where the second value should begin. -/
def duplicate (name : String) : Reader α := do
  if (← token) = some (byte '\x7d') then
    skip
    failHere (.duplicateField name)
  else failTaken (.duplicateField name)

/-- Reads the value of a field that has none yet. -/
def once (name : String) (value : Option α) (field : Reader α) : Reader (Option α) := do
  if value.isSome then duplicate name
  colon
  return some (← field)

/-- Passes over the value of a member. -/
def ignoreMember : Reader Unit := do
  colon
  skipValue

/-! ### Texts -/

/-- Reads a value that is all of a text. -/
def whole (value : Reader α) : Reader α := do
  let a ← value
  if (← token).isSome then failAhead .trailingCharacters
  return a

/-- Reads bytes of a source to their end. -/
def decode (value : Reader α) (source : Source) (bytes : List UInt8) : Except Error α :=
  match whole value { source, rest := bytes } with
  | .ok a _ => .ok a
  | .error e _ => .error e

end NetReconcile.Json
