import DelegatedScopes.Role.Document

/-!
# Roles — snapshots

A role together with the scopes it leads to.

* `RoleSnapshot.toJson`: the snapshot as a record, with the details among its members.
-/

namespace DelegatedScopes

/-- A role and its expansion. -/
structure RoleSnapshot where
  role : Role
  expandedScopes : List Text
deriving DecidableEq

/-- The snapshot as a record. -/
def RoleSnapshot.toJson (s : RoleSnapshot) : Json :=
  .object
    ([("roleId".toList, .text s.role.id), ("description".toList, .text s.role.description),
      ("scopes".toList, .texts s.role.scopes),
      ("expandedScopes".toList, .texts s.expandedScopes)]
      ++ s.role.details.members)

end DelegatedScopes
