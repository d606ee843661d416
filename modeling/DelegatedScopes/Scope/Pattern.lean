import DelegatedScopes.Text

/-!
# Scope — patterns

A scope is an opaque text.  The only reserved syntax is a trailing `*`, which makes it a wildcard
scope: it is satisfied by every text that starts with its literal part.  Any other scope is
satisfied by itself alone.  A star anywhere else is an ordinary character, and only the last of
several trailing stars is syntax: the literal part of `q**` is `q*`.

* `satisfiedBy`: a concrete text satisfies a scope.
* `implies`: one scope grants at least what another grants.
* `Scope.order`: the order of every sorted scope list.  A wildcard scope comes directly before the
  run of scopes it implies.
-/

namespace DelegatedScopes

/-- A scope, as it is written. -/
abbrev Scope := Text

namespace Scope

/-- The scope that implies every other. -/
def star : Scope := ['*']

/-- Whether the scope ends in the wildcard. -/
def isWildcard (s : Scope) : Bool := s.getLast? == some '*'

/-- The scope without its wildcard, if it has one. -/
def literal (s : Scope) : Text := if s.isWildcard then s.dropLast else s

/-- Whether a concrete text satisfies a scope. -/
def satisfiedBy (s : Scope) (t : Text) : Bool :=
  if s.isWildcard then s.literal.leads t else s == t

/-- Whether `a` implies `b`.  For a wildcard scope `b` the literal parts are compared, so `q**`
does not imply `q*`. -/
def implies (a b : Scope) : Bool :=
  if a.isWildcard then a.literal.leads b.literal else a == b

/-- The order of scopes: by literal part, and of two scopes with one literal part the wildcard
scope first. -/
def order (a b : Scope) : Ordering :=
  (compare a.literal b.literal).then (compare b.isWildcard.toNat a.isWildcard.toNat)

/-- `a` comes no later than `b`. -/
def ordered (a b : Scope) : Bool := (order a b).isLE

/-! ### A scope and its parts -/

@[simp] theorem isWildcard_append_star (t : Text) : isWildcard (t ++ ['*']) = true := by
  simp [isWildcard]

@[simp] theorem literal_append_star (t : Text) : literal (t ++ ['*']) = t := by
  simp [literal]

theorem eq_of_isWildcard {s : Scope} (h : s.isWildcard = true) : s = s.literal ++ ['*'] := by
  have hl : s.getLast? = some '*' := by simpa [isWildcard] using h
  rw [literal, if_pos h]
  obtain ⟨ys, rfl⟩ := List.getLast?_eq_some_iff.1 hl
  simp

theorem eq_of_not_isWildcard {s : Scope} (h : s.isWildcard = false) : s.literal = s := by
  simp [literal, h]

/-- A scope is determined by its literal part and its wildcard. -/
theorem eq_of_parts {a b : Scope} (hl : a.literal = b.literal)
    (hw : a.isWildcard = b.isWildcard) : a = b := by
  cases h : a.isWildcard with
  | true =>
    have hb : b.isWildcard = true := hw ▸ h
    rw [eq_of_isWildcard h, eq_of_isWildcard hb, hl]
  | false =>
    have hb : b.isWildcard = false := hw ▸ h
    rw [← eq_of_not_isWildcard h, ← eq_of_not_isWildcard hb, hl]

end Scope

end DelegatedScopes
