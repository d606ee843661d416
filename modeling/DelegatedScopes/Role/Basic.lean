import DelegatedScopes.Instant
import DelegatedScopes.Scope.Template
import Std.Data.TreeMap

/-!
# Roles

A role grants its scopes to whoever holds `assume:<role id>`.  A role whose id ends in `*` is
parameterized: it stands for every id with its literal part in front, and its scopes may use the
placeholder for what follows.  A list of roles may define an id more than once; the last
definition counts.

* `Role.validate`: the fault of a single definition, if it has one.
* `Role.effective`: the definitions of a list that count, by id.
-/

namespace DelegatedScopes

/-- When a role was made and last changed. -/
structure RoleDetails where
  created : Instant
  lastModified : Instant
deriving DecidableEq

/-- A role: its id, the scopes it grants, and a description that plays no part in resolution. -/
structure Role where
  id : Text
  scopes : List Text
  description : Text
  details : RoleDetails
deriving DecidableEq

/-- What can be wrong with a scope of a role. -/
inductive ScopeFault
  | emptyRoleId
  | unbalancedMarker
  | placeholderInPlainRole
deriving DecidableEq

/-- The fault in words. -/
def ScopeFault.message : ScopeFault → String
  | .emptyRoleId => "role id cannot be empty"
  | .unbalancedMarker => "unbalanced placeholder marker"
  | .placeholderInPlainRole => "placeholder used in a role whose id does not end in '*'"

/-- Why a set of roles is refused: a scope of a role is malformed, or parameterized roles feed each
other without end.  A cycle starts and ends with the same role id. -/
inductive RoleSetError
  | malformed (roleId scope : Text) (fault : ScopeFault)
  | cycle (path : List Text)
deriving DecidableEq

/-- The error in words. -/
def RoleSetError.message : RoleSetError → Text
  | .malformed roleId scope fault =>
    "Invalid scope '".toList ++ scope ++ "' in role '".toList ++ roleId ++ "': ".toList
      ++ fault.message.toList
  | .cycle path => "Found cycle in roles: ".toList ++ Text.join " -> ".toList path

namespace Role

/-- A role without a description, made at the given instant. -/
def plain (id : Text) (scopes : List Text) (now : Instant) : Role :=
  ⟨id, scopes, [], now, now⟩

/-- Whether the role stands for many ids. -/
def isParameterized (r : Role) : Bool := Scope.isWildcard r.id

/-- The scopes of the role, cut at their placeholders. -/
def templates (r : Role) : List Template := r.scopes.map Template.parse

/-- The fault of one scope of a role. -/
def scopeFault? (parameterized : Bool) (scope : Text) : Option ScopeFault :=
  if !Template.wellFormed scope then some .unbalancedMarker
  else if !parameterized && (Template.parse scope).hasPlaceholder then
    some .placeholderInPlainRole
  else none

/-- Refuses an empty id, and then the first scope that is malformed. -/
def validate (r : Role) : Except RoleSetError Unit :=
  if r.id.isEmpty then .error (.malformed r.id [] .emptyRoleId)
  else r.scopes.forM fun scope =>
    match scopeFault? r.isParameterized scope with
    | some fault => .error (.malformed r.id scope fault)
    | none => .ok ()

/-- The definitions that count: the last one of each id, by ascending id. -/
def effective (roles : List Role) : List Role :=
  (roles.foldl (fun known r => known.insert r.id r) (∅ : Std.TreeMap Text Role)).values

end Role

end DelegatedScopes
