import DelegatedScopes.Instant.Rfc3339
import DelegatedScopes.Text

/-!
# JSON — values and their written forms

The values that are written, and two ways to write them: on one line without blanks, and spread
over lines, two blanks for each level.  The members of an object are written in their order.

* `Json.quote`: a text as a JSON string.
* `Json.compact`, `Json.pretty`: the two written forms.
-/

namespace DelegatedScopes

/-- A value to be written. -/
inductive Json
  | null
  | bool (b : Bool)
  | number (n : Nat)
  | text (t : Text)
  | array (items : List Json)
  | object (members : List (Text × Json))

namespace Json

/-- A list of texts. -/
def texts (ts : List Text) : Json := .array (ts.map .text)

/-- An instant, in its written form. -/
def instant (i : Instant) : Json := .text i.write

/-! ### Strings -/

/-- A hexadecimal digit, in lower case. -/
def hexDigit (n : Nat) : Char := Nat.digitChar (n % 16)

/-- A character inside a string.  A quote, a backslash and the control characters are escaped;
every other character stands for itself. -/
def escape (c : Char) : Text :=
  if c = '"' then ['\\', '"']
  else if c = '\\' then ['\\', '\\']
  else if c = '\n' then ['\\', 'n']
  else if c = '\r' then ['\\', 'r']
  else if c = '\t' then ['\\', 't']
  else if c = '\x08' then ['\\', 'b']
  else if c = '\x0c' then ['\\', 'f']
  else if c.toNat < 0x20 then ['\\', 'u', '0', '0', hexDigit (c.toNat / 16), hexDigit c.toNat]
  else [c]

/-- A text as a JSON string. -/
def quote (t : Text) : Text := '"' :: t.flatMap escape ++ ['"']

/-! ### Written forms -/

mutual
/-- The value on one line, without blanks. -/
def compact : Json → Text
  | .null => "null".toList
  | .bool b => (if b then "true" else "false").toList
  | .number n => Text.decimal n
  | .text t => quote t
  | .array items => '[' :: compactItems items ++ [']']
  | .object members => '{' :: compactMembers members ++ ['}']

/-- The items of an array with commas between them. -/
def compactItems : List Json → Text
  | [] => []
  | [v] => compact v
  | v :: w :: rest => compact v ++ ',' :: compactItems (w :: rest)

/-- The members of an object with commas between them. -/
def compactMembers : List (Text × Json) → Text
  | [] => []
  | [(k, v)] => quote k ++ ':' :: compact v
  | (k, v) :: w :: rest => quote k ++ ':' :: compact v ++ ',' :: compactMembers (w :: rest)
end

/-- The start of a line at a level. -/
def newLine (level : Nat) : Text := '\n' :: List.replicate (2 * level) ' '

mutual
/-- The value spread over lines, inside `level` enclosing arrays and objects. -/
def prettyAt (level : Nat) : Json → Text
  | .array [] => "[]".toList
  | .array (v :: rest) =>
    '[' :: newLine (level + 1) ++ prettyAt (level + 1) v ++ prettyItems (level + 1) rest
      ++ newLine level ++ [']']
  | .object [] => ['{', '}']
  | .object ((k, v) :: rest) =>
    '{' :: newLine (level + 1) ++ quote k ++ ": ".toList ++ prettyAt (level + 1) v
      ++ prettyMembers (level + 1) rest ++ newLine level ++ ['}']
  | .null => "null".toList
  | .bool b => (if b then "true" else "false").toList
  | .number n => Text.decimal n
  | .text t => quote t

/-- The items of an array after the first. -/
def prettyItems (level : Nat) : List Json → Text
  | [] => []
  | v :: rest => ',' :: newLine level ++ prettyAt level v ++ prettyItems level rest

/-- The members of an object after the first. -/
def prettyMembers (level : Nat) : List (Text × Json) → Text
  | [] => []
  | (k, v) :: rest =>
    ',' :: newLine level ++ quote k ++ ": ".toList ++ prettyAt level v ++ prettyMembers level rest
end

/-- The value spread over lines. -/
def pretty (v : Json) : Text := prettyAt 0 v

end Json

end DelegatedScopes
