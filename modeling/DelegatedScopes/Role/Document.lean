import DelegatedScopes.Json.Record
import DelegatedScopes.Json.Value
import DelegatedScopes.Role.Basic

/-!
# Roles — documents

A role as a JSON record.  A description that is missing is empty, and details that are missing are
those of a role made now.

* `Role.reader`, `Role.toJson`: reading and writing a role.
-/

namespace DelegatedScopes

open Json (Field Reader Schema required)

namespace RoleDetails

/-- The parts of a role's details. -/
structure Parts where
  created : Option Instant
  lastModified : Option Instant

/-- The details of a role as a record. -/
def schema : Schema Parts RoleDetails where
  name := "RoleDetails"
  fields :=
    [.part "created" Parts.created (fun i p => { p with created := some i }) .instant,
     .part "lastModified" Parts.lastModified (fun i p => { p with lastModified := some i })
      .instant]
  blank := ⟨none, none⟩
  finish missing p := do
    let created ← required (missing 0) p.created
    let lastModified ← required (missing 1) p.lastModified
    .ok ⟨created, lastModified⟩

/-- The members of the details. -/
def members (d : RoleDetails) : List (Text × Json) :=
  [("created".toList, .instant d.created), ("lastModified".toList, .instant d.lastModified)]

end RoleDetails

namespace Role

/-- The parts of a role. -/
structure Parts where
  id : Option Text
  scopes : Option (List Text)
  description : Option Text
  details : Option RoleDetails

/-- A role as a record that is read at an instant. -/
def schema (now : Instant) : Schema Parts Role where
  name := "Role"
  fields :=
    [.part "roleId" Parts.id (fun t p => { p with id := some t }) .text,
     .part "scopes" Parts.scopes (fun ts p => { p with scopes := some ts }) (.list .text),
     .part "description" Parts.description (fun t p => { p with description := some t }) .text,
     .part "details" Parts.details (fun d p => { p with details := some d })
      RoleDetails.schema.reader]
  blank := ⟨none, none, none, none⟩
  finish missing p := do
    let id ← required (missing 0) p.id
    let scopes ← required (missing 1) p.scopes
    .ok ⟨id, scopes, p.description.getD [], p.details.getD ⟨now, now⟩⟩

/-- Reads a role. -/
def reader (now : Instant) : Reader Role := (schema now).reader

/-- The role as a record. -/
def toJson (r : Role) : Json :=
  .object
    [("roleId".toList, .text r.id), ("scopes".toList, .texts r.scopes),
     ("description".toList, .text r.description), ("details".toList, .object r.details.members)]

end Role

end DelegatedScopes
