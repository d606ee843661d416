import DelegatedScopes.Scope.Pattern

/-!
# Scope — normal forms

A scope set is in normal form when it is sorted, without repetition, and no scope of it implies
another.  Sorting by `Scope.order` puts every wildcard scope directly before the run of scopes it
implies, so one sweep that remembers the last wildcard scope it kept finds every implied scope.

* `sweep`: drops repeated and implied scopes from a sorted list.
* `normalize`: the normal form of any list of scopes.
* `mergeNormal`: the normal form of the union of two sorted lists, in one pass over both.
-/

namespace DelegatedScopes.Scope

/-- The sweep in progress: `cover` is the last wildcard scope kept, `last` the last scope kept. -/
def sweepFrom (cover last : Option Scope) : List Scope → List Scope
  | [] => []
  | s :: rest =>
    if cover.any (implies · s) || last == some s then sweepFrom cover last rest
    else s :: sweepFrom (if s.isWildcard then some s else cover) (some s) rest

/-- Drops repeated and implied scopes from a sorted list. -/
def sweep (scopes : List Scope) : List Scope := sweepFrom none none scopes

/-- The normal form of a list of scopes. -/
def normalize (scopes : List Scope) : List Scope :=
  if scopes.contains star then [star] else sweep (scopes.mergeSort ordered)

/-- The normal form of the union of two sorted lists.  Of two equal scopes the first list's comes
first, which the sweep then makes invisible. -/
def mergeNormal (a b : List Scope) : List Scope := sweep (a.merge b ordered)

end DelegatedScopes.Scope
