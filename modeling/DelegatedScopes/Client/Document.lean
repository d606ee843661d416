import DelegatedScopes.Client.Basic
import DelegatedScopes.Json.Record
import DelegatedScopes.Json.Value

/-!
# Clients — documents

A client as a JSON record.  Its token is read, and never written.  What is missing is empty, off
or now; only the id and the expiry have no default.

* `Client.reader`, `Client.toJson`: reading and writing a client.
-/

namespace DelegatedScopes

open Json (Field Reader Schema required)

namespace ClientDetails

/-- The parts of a client's details. -/
structure Parts where
  created : Option Instant
  lastModified : Option Instant
  lastUsed : Option Instant
  lastRotated : Option Instant

/-- The details of a client as a record. -/
def schema : Schema Parts ClientDetails where
  name := "ClientDetails"
  fields :=
    [.part "created" Parts.created (fun i p => { p with created := some i }) .instant,
     .part "lastModified" Parts.lastModified (fun i p => { p with lastModified := some i })
      .instant,
     .part "lastDateUsed" Parts.lastUsed (fun i p => { p with lastUsed := some i }) .instant,
     .part "lastRotated" Parts.lastRotated (fun i p => { p with lastRotated := some i })
      .instant]
  blank := ⟨none, none, none, none⟩
  finish missing p := do
    let created ← required (missing 0) p.created
    let lastModified ← required (missing 1) p.lastModified
    let lastUsed ← required (missing 2) p.lastUsed
    let lastRotated ← required (missing 3) p.lastRotated
    .ok ⟨created, lastModified, lastUsed, lastRotated⟩

/-- The members of the details. -/
def members (d : ClientDetails) : List (Text × Json) :=
  [("created".toList, .instant d.created), ("lastModified".toList, .instant d.lastModified),
   ("lastDateUsed".toList, .instant d.lastUsed), ("lastRotated".toList, .instant d.lastRotated)]

end ClientDetails

namespace Client

/-- The parts of a client. -/
structure Parts where
  id : Option Text
  description : Option Text
  accessToken : Option Text
  expires : Option Instant
  scopes : Option (List Text)
  disabled : Option Bool
  details : Option ClientDetails

/-- A client as a record that is read at an instant. -/
def schema (now : Instant) : Schema Parts Client where
  name := "Client"
  fields :=
    [.part "clientId" Parts.id (fun t p => { p with id := some t }) .text,
     .part "description" Parts.description (fun t p => { p with description := some t }) .text,
     .part "accessToken" Parts.accessToken (fun t p => { p with accessToken := some t }) .text,
     .part "expires" Parts.expires (fun i p => { p with expires := some i }) .instant,
     .part "scopes" Parts.scopes (fun ts p => { p with scopes := some ts }) (.list .text),
     .part "disabled" Parts.disabled (fun b p => { p with disabled := some b }) .flag,
     .part "details" Parts.details (fun d p => { p with details := some d })
      ClientDetails.schema.reader]
  blank := ⟨none, none, none, none, none, none, none⟩
  finish missing p := do
    let id ← required (missing 0) p.id
    let expires ← required (missing 3) p.expires
    .ok
      { id
        description := p.description.getD []
        accessToken := p.accessToken.getD []
        expires
        scopes := p.scopes.getD []
        disabled := p.disabled.getD false
        details := p.details.getD (.new now) }

/-- Reads a client. -/
def reader (now : Instant) : Reader Client := (schema now).reader

/-- The client as a record, without its token. -/
def toJson (c : Client) : Json :=
  .object
    [("clientId".toList, .text c.id), ("description".toList, .text c.description),
     ("expires".toList, .instant c.expires), ("scopes".toList, .texts c.scopes),
     ("disabled".toList, .bool c.disabled), ("details".toList, .object c.details.members)]

end Client

end DelegatedScopes
