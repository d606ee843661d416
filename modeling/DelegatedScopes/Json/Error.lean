import DelegatedScopes.Text

/-!
# JSON — errors

An error says what is wrong with a document and where.  A document is read from left to right, so
the reader that comes upon an error has the rest of the document in hand, and not what was before:
it says how many bytes are left.  The line and the column are counted from the start of the document
once it is known as a whole.

* `Json.Code`: what is wrong; `Json.Fault` is the kind of it.
* `Json.Misread`: what is wrong, and how much of the text is left there.
* `Json.Error`: what is wrong with a document, with the line and the column.
-/

namespace DelegatedScopes.Json

/-- An open bracket. -/
inductive Bracket
  | array
  | object
deriving DecidableEq

/-- The character that closes a bracket. -/
def Bracket.close : Bracket → Char
  | .array => ']'
  | .object => '}'

/-- The bracket that a character opens. -/
def Bracket.ofOpening? (c : Char) : Option Bracket :=
  if c = '[' then some .array else if c = '{' then some .object else none

/-! ### What is wrong -/

/-- What can be wrong with a document.  It ends where something has to follow, it breaks the form of
JSON, or there is a `message` about a value that has the form. -/
inductive Code
  | endInside (b : Bracket)
  | endInString
  | endOfValue
  | noColon
  | noCommaOrClose (b : Bracket)
  | noWord
  | noValue
  | keyNoString
  | badEscape
  | badNumber
  | numberTooLarge
  | controlCharacter
  | loneSurrogate
  | endOfEscape
  | trailingComma
  | trailingCharacters
  | message (text : Text)
deriving DecidableEq

/-- The kinds of what can be wrong: the text is malformed, it ends too early, or it is well formed
and not what was wanted. -/
inductive Fault
  | malformed
  | truncated
  | rejected (message : Text)
deriving DecidableEq

namespace Code

/-- The kind of what is wrong. -/
def fault : Code → Fault
  | .endInside _ | .endInString | .endOfValue => .truncated
  | .message text => .rejected text
  | _ => .malformed

/-- What is wrong, in words. -/
def text : Code → Text
  | .endInside .array => "EOF while parsing a list".toList
  | .endInside .object => "EOF while parsing an object".toList
  | .endInString => "EOF while parsing a string".toList
  | .endOfValue => "EOF while parsing a value".toList
  | .noColon => "expected `:`".toList
  | .noCommaOrClose b => "expected `,` or `".toList ++ b.close :: "`".toList
  | .noWord => "expected ident".toList
  | .noValue => "expected value".toList
  | .keyNoString => "key must be a string".toList
  | .badEscape => "invalid escape".toList
  | .badNumber => "invalid number".toList
  | .numberTooLarge => "number out of range".toList
  | .controlCharacter =>
    "control character (\\u0000-\\u001F) found while parsing a string".toList
  | .loneSurrogate => "lone leading surrogate in hex escape".toList
  | .endOfEscape => "unexpected end of hex escape".toList
  | .trailingComma => "trailing comma".toList
  | .trailingCharacters => "trailing characters".toList
  | .message text => text

end Code

/-! ### Where it is -/

/-- What is wrong with a text, and the number of bytes that are left of the text there. -/
structure Misread where
  code : Code
  left : Nat
deriving DecidableEq

namespace Misread

/-- Something is wrong with the first byte of what is left, or with its absence.  That byte has been
looked at, and counts as read. -/
def on (code : Code) (t : Text) : Misread := ⟨code, t.byteLength - 1⟩

/-- Something is wrong with what has been read, up to what is left. -/
def before (code : Code) (t : Text) : Misread := ⟨code, t.byteLength⟩

end Misread

/-- A last step that reads nothing.  Where it fails, something is wrong with what has been read. -/
def conclude {α : Type} (x : Except Code α) (rest : Text) : Except Misread (α × Text) :=
  match x with
  | .error code => .error (.before code rest)
  | .ok a => .ok (a, rest)

theorem conclude_eq_ok {α : Type} {x : Except Code α} {a : α} {rest left : Text}
    (h : conclude x left = .ok (a, rest)) : x = .ok a ∧ rest = left := by
  cases x with
  | error code => cases h
  | ok b =>
    cases h
    exact ⟨rfl, rfl⟩

/-- A place in a document: the line, counted from one, and the bytes of the line that come
before. -/
structure Place where
  line : Nat
  column : Nat
deriving DecidableEq

namespace Place

/-- The place behind a character. -/
def past (p : Place) (c : Char) : Place :=
  if c = '\n' then ⟨p.line + 1, 0⟩ else ⟨p.line, p.column + c.utf8Size⟩

/-- The place some bytes further on in a text.  It may be inside a character. -/
def advance : Place → (bytes : Nat) → Text → Place
  | p, _, [] => p
  | p, n, c :: t =>
    if n < c.utf8Size then ⟨p.line, p.column + n⟩ else (p.past c).advance (n - c.utf8Size) t

/-- The place of a document behind which a number of bytes is left. -/
def ofLeft (document : Text) (left : Nat) : Place :=
  advance ⟨1, 0⟩ (document.byteLength - left) document

end Place

/-- What is wrong with a document, and where. -/
structure Error where
  code : Code
  place : Place
deriving DecidableEq

namespace Error

/-- Where only the kind of an error matters, it stands for the error. -/
instance : Coe Error Fault := ⟨fun e => e.code.fault⟩

/-- The error in words. -/
def message (e : Error) : Text :=
  "Invalid document: ".toList ++ e.code.text ++ " at line ".toList ++ Text.decimal e.place.line
    ++ " column ".toList ++ Text.decimal e.place.column

end Error

/-- What is wrong with a document from which a reader has gone this far. -/
def Misread.inDocument (m : Misread) (document : Text) : Error :=
  ⟨m.code, .ofLeft document m.left⟩

end DelegatedScopes.Json
