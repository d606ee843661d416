import DelegatedScopes.Scope.Pattern
import Std.Data.TreeSet

/-!
# Resolver — expansions

The scopes met while a scope set is expanded, in the order in which they arrived.  Each scope is
queued once, on its first arrival.  A scope that another scope of the expansion implies adds
nothing and can be skipped; since only wildcard scopes imply others, it is enough to probe the
literal parts of the wildcard scopes met with every beginning of the scope's own literal part.

* `Expansion.add`: one more scope.
* `Expansion.covers`: whether another scope of the expansion implies the given one.
-/

namespace DelegatedScopes

/-- The scopes of an expansion in order of arrival, the same scopes as a set, and the literal parts
of the wildcard scopes among them. -/
structure Expansion where
  arrivals : Array Scope
  seen : Std.TreeSet Text
  literals : Std.TreeSet Text

namespace Expansion

/-- No scope has been met. -/
def empty : Expansion := ⟨#[], ∅, ∅⟩

/-- One more scope; nothing happens when it was met before. -/
def add (e : Expansion) (s : Scope) : Expansion :=
  if e.seen.contains s then e
  else {
    arrivals := e.arrivals.push s
    seen := e.seen.insert s
    literals := if s.isWildcard then e.literals.insert s.literal else e.literals }

/-- Whether another scope of the expansion implies `s`. -/
def covers (e : Expansion) (s : Scope) : Bool :=
  (Text.splits s.literal).any fun cut =>
    !(s.isWildcard && cut.2.isEmpty) && e.literals.contains cut.1

end Expansion

end DelegatedScopes
