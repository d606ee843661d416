import DelegatedScopes.Text
import DelegatedScopes.Text.Hidden

/-!
# Text — quoted for a reader

A text between quotes, as messages show it: a quote and a backslash are escaped, and so is every
character that does not show.

* `Text.quoted`: the quoted text.
-/

namespace DelegatedScopes.Text

/-- The digits of a number in hexadecimal. -/
def hexadecimal (n : Nat) : Text := Nat.toDigits 16 n

/-- A character between quotes. -/
def showChar (c : Char) : Text :=
  if c = '\x00' then ['\\', '0']
  else if c = '\t' then ['\\', 't']
  else if c = '\r' then ['\\', 'r']
  else if c = '\n' then ['\\', 'n']
  else if c = '\\' ∨ c = '"' then ['\\', c]
  else if isHidden c then ['\\', 'u', '{'] ++ hexadecimal c.toNat ++ ['}']
  else [c]

/-- A text between quotes. -/
def quoted (t : Text) : Text := '"' :: t.flatMap showChar ++ ['"']

end DelegatedScopes.Text
