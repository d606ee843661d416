import DelegatedScopes.Scope.Activation
import Std.Data.TreeMap

/-!
# Resolver — the role index

Finds the roles that a scope activates without trying every role.  Plain ids and the literal parts
of parameterized ids are looked up in tables: an exact query can only be met by a literal part that
starts it.  An open query is also met by every role whose literal part it starts, and these stand
together when the literal parts are sorted.

* `RoleIndex.ofIds`: the index of a list of distinct role ids, numbered from zero.
* `RoleIndex.lookup`: the numbers of the activated roles, each with its activation.
-/

namespace DelegatedScopes

/-- Three tables over the numbers of the roles: plain ids, literal parts of parameterized ids, and
all literal parts in order. -/
structure RoleIndex where
  plain : Std.TreeMap Text Nat
  parameterized : Std.TreeMap Text Nat
  byLiteral : List (Text × Nat)

namespace RoleIndex

/-- Enters a role id under its number. -/
def insert (index : RoleIndex) (entry : Text × Nat) : RoleIndex :=
  let literal := Scope.literal entry.1
  if Scope.isWildcard entry.1 then
    { index with parameterized := index.parameterized.insert literal entry.2 }
  else { index with plain := index.plain.insert literal entry.2 }

/-- Literal parts in order, and roles with one literal part by number. -/
def literalOrder (a b : Text × Nat) : Bool :=
  ((compare a.1 b.1).then (compare a.2 b.2)).isLE

/-- The index of a list of role ids. -/
def ofIds (ids : List Text) : RoleIndex :=
  let literals := ids.zipIdx.map fun entry => (Scope.literal entry.1, entry.2)
  ids.zipIdx.foldl insert ⟨∅, ∅, literals.mergeSort literalOrder⟩

/-- The parameterized roles whose literal part starts the query, by growing literal part, each with
what it leaves of the query. -/
def leading (index : RoleIndex) (query : Text) : List (Nat × Text) :=
  (Text.splits query).filterMap fun cut => index.parameterized[cut.1]?.map fun i => (i, cut.2)

/-- The roles that an exact query activates. -/
def lookupExact (index : RoleIndex) (query : Text) : List (Nat × Activation) :=
  index.plain[query]?.toList.map (fun i => (i, .exactly []))
    ++ (index.leading query).map fun found => (found.1, .exactly found.2)

/-- The roles that an open query activates: those whose literal part the query starts, and those
whose literal part is a shorter beginning of the query. -/
def lookupOpen (index : RoleIndex) (query : Text) : List (Nat × Activation) :=
  let extending := (index.byLiteral.dropWhile fun entry => (compare entry.1 query).isLT).takeWhile
    fun entry => query.leads entry.1
  extending.map (fun entry => (entry.2, .startingWith []))
    ++ ((index.leading query).filter fun found => !found.2.isEmpty).map fun found =>
      (found.1, .startingWith found.2)

/-- The roles that a scope activates. -/
def lookup (index : RoleIndex) (s : Scope) : List (Nat × Activation) :=
  match Scope.assume.after? s with
  | some query =>
    if Scope.isWildcard query then index.lookupOpen (Scope.literal query)
    else index.lookupExact query
  | none =>
    if s.isWildcard && s.literal.leads Scope.assume then
      (List.range index.byLiteral.length).map fun i => (i, .startingWith [])
    else []

end RoleIndex

end DelegatedScopes
