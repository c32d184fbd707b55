import NetReconcile.Yaml.Token.Basic

/-!
# Tags and directives

A tag says of what kind a node is. It is written in full between angle brackets, or as a handle and
the rest of its name. Directives before a document say what handles stand for. Of a tag only the
handle matters here, but all of it has to be well-formed.

In a tag, bytes can be written as a percent sign and two digits. The first byte of a character says
how many there are, as in UTF-8. Together they are its code point in base 256, so that only the
characters of one byte are those of UTF-8.

## Main definitions

* `lexTag`: a tag.
* `directive`: a directive.
-/

namespace NetReconcile.Yaml

/-! ### Characters of tags -/

/-- Whether a character can be part of a tag that is written in full. -/
def isUriChar (c : Char) : Bool :=
  isWord c || "#;/?:@&=+$,.!~*'()[]%".toList.any (· = c)

/-- Whether a character can be part of a tag after its handle. -/
def isTagChar (c : Char) : Bool :=
  isUriChar c && !isFlow c && c ≠ '!'

/-- The byte that is written as a percent sign and two digits. -/
def escapedByte? : Spots → Option (Nat × Spots)
  | ⟨'%', _, _, _, _⟩ :: high :: low :: ss =>
    (Text.digits? 16 [high.char, low.char]).map (·, ss)
  | _ => none

/-- How many bytes a character has that starts with a byte. -/
def escapedLength? (byte : Nat) : Option Nat :=
  if byte < 0x80 then some 1
  else if 0xc0 ≤ byte && byte < 0xe0 then some 2
  else if 0xe0 ≤ byte && byte < 0xf0 then some 3
  else if 0xf0 ≤ byte && byte < 0xf8 then some 4
  else none

/-- Reads further bytes of a character, after those that make up `code`. -/
def escapedRest? : Nat → Nat → Spots → Option (Nat × Spots)
  | 0, code, ss => some (code, ss)
  | n + 1, code, ss => do
    let (byte, ss) ← escapedByte? ss
    if byte < 0x80 || 0xc0 ≤ byte then none
    escapedRest? n (code * 256 + byte) ss

/-- Passes a character that is written in bytes, and says how many characters it took. -/
def escapedChar? (ss : Spots) : Option Nat := do
  let (byte, ss) ← escapedByte? ss
  let n ← escapedLength? byte
  let (code, _) ← escapedRest? (n - 1) byte ss
  discard (charOf? code)
  return 3 * n

/-- Passes the part of a tag whose characters satisfy a condition. `skip` counts the characters that
are part of an escape. -/
def tagText? (p : Char → Bool) : Nat → Spots → Option Spots
  | _, [] => some []
  | skip + 1, _ :: ss => tagText? p skip ss
  | 0, s :: ss =>
    if s.char = '%' then
      match escapedChar? (s :: ss) with
      | some n => tagText? p (n - 1) ss
      | none => none
    else if p s.char then tagText? p 0 ss
    else some (s :: ss)

/-- Passes part of a tag, and says whether it has any characters. -/
def tagText (p : Char → Bool) : Lex Bool := do
  let l ← get
  set { l with rest := ← tagText? p 0 l.rest }
  return p l.rest.char

/-! ### Tags -/

/-- The handle of a tag: an exclamation mark, and maybe a word and another one. -/
def tagHandle : Lex String := do
  if (← get).rest.char ≠ '!' then failure
  modify (·.pass 1)
  let name ← takeText isWord
  if (← get).rest.char = '!' then
    modify (·.pass 1)
    return "!" ++ name ++ "!"
  else return "!" ++ name

/-- Whether a handle has to be declared. -/
def isNamedHandle (handle : String) : Bool :=
  1 < handle.length && handle.endsWith "!"

/-- Reads a tag that is written in full. -/
def fullTag : Lex Unit := do
  modify (·.pass 2)
  discard (tagText isUriChar)
  if (← get).rest.char ≠ '>' then failure
  modify (·.pass 1)

/-- Reads a tag that starts with a handle, and gives the handle. -/
def shortTag : Lex String := do
  let handle ← tagHandle
  let named := isNamedHandle handle
  let more ← tagText isTagChar
  if named && !more then failure
  return if named then handle else "!"

/-- A tag. -/
def lexTag : Lex Token := do
  let handle ← if (← get).rest.char₂ = '<' then do fullTag; pure "" else shortTag
  let l ← get
  if isBlankOrEnd l.rest.char || (l.inFlow && isFlow l.rest.char) then return .tag handle
  else failure

/-! ### Directives -/

/-- A number in a directive, of one to nine digits. -/
def versionNumber : Lex Unit := do
  let digits ← takeText Char.isDigit
  if digits.isEmpty || 9 < digits.length then failure

/-- A directive for the version: two numbers with a point between them. -/
def versionDirective : Lex Token := do
  discard (takeText isBlank)
  versionNumber
  if (← get).rest.char ≠ '.' then failure
  modify (·.pass 1)
  versionNumber
  return .versionDirective

/-- A directive for a handle of tags: the handle and what it stands for. -/
def tagDirective : Lex Token := do
  discard (takeText isBlank)
  let handle ← tagHandle
  if handle ≠ "!" && !handle.endsWith "!" then failure
  discard (takeText isBlank)
  if (← get).rest.char = '!' then modify (·.pass 1)
  else if !isTagChar (← get).rest.char then failure
  discard (tagText isUriChar)
  if !isBlankOrEnd (← get).rest.char then failure
  return .tagDirective handle

/-- A directive, with the end of its line. Unknown ones are passed over. -/
def directive : Lex Token := do
  modify (·.pass 1)
  let name ← takeText isWord
  if name.isEmpty || !isBlankOrEnd (← get).rest.char then failure
  let t ← match name with
    | "YAML" => versionDirective
    | "TAG" => tagDirective
    | _ => do
      modify fun l ↦ { l with rest := l.rest.skipLine }
      pure (Token.tagDirective "")
  passRest
  if !isBreakOrEnd (← get).rest.char then failure
  if (← get).rest.char = '\n' then modify (·.pass 1)
  return t

end NetReconcile.Yaml
