import DelegatedScopes.Scope.Pattern

/-!
# Scope — activation

Holding `assume:<role id>` activates the role.  Both the role id and the scope may end in `*`, and
the two then overlap exactly when one literal part starts the other.  What the scope says beyond
the role's literal part is the capture.

* `Activation`: a capture, and whether it is only the beginning of an unknown value.
* `matchRole`: a role id against the part of a scope after `assume:`.
* `activate`: a role id against a whole scope.
-/

namespace DelegatedScopes

/-- How a scope activates a role.  An open activation comes from a wildcard scope: its capture is
only the known beginning of the real value. -/
structure Activation where
  capture : Text
  isOpen : Bool
deriving DecidableEq

namespace Activation

/-- The capture is the complete value. -/
def exactly (capture : Text) : Activation := ⟨capture, false⟩

/-- The capture is only the beginning of the value. -/
def startingWith (capture : Text) : Activation := ⟨capture, true⟩

end Activation

namespace Scope

/-- What every activation scope starts with. -/
def assume : Text := "assume:".toList

/-- A role id against the part of a scope after `assume:`.  The capture is what the query says
beyond the role's literal part, or empty when the role's literal part is the longer one. -/
def matchRole (roleId query : Text) : Option Activation :=
  let role := literal roleId
  let asked := literal query
  match isWildcard roleId, isWildcard query with
  | false, false => if role = asked then some (.exactly []) else none
  | true, false => (role.after? asked).map .exactly
  | false, true => if asked.leads role then some (.startingWith []) else none
  | true, true =>
    match role.after? asked with
    | some rest => some (.startingWith rest)
    | none => if asked.leads role then some (.startingWith []) else none

/-- A role id against a whole scope.  A wildcard scope whose literal part starts `assume:`, such as
`*` or `assum*`, activates every role and captures nothing; any other scope that does not start
with `assume:` activates none. -/
def activate (roleId : Text) (s : Scope) : Option Activation :=
  match assume.after? s with
  | some query => matchRole roleId query
  | none =>
    if s.isWildcard && s.literal.leads assume then some (.startingWith []) else none

end Scope

end DelegatedScopes
