import DelegatedScopes.Client.Document

/-!
# Clients — snapshots

What is served of a client: everything but its token, together with the scopes it leads to.  An
expired client is served like any other; turning it away is left to whoever asked.

* `ClientSnapshot.of`: the snapshot of a client.
* `ClientSnapshot.toJson`: the snapshot as a record, with the details among its members.
-/

namespace DelegatedScopes

/-- A client without its token, and its expansion. -/
structure ClientSnapshot where
  id : Text
  description : Text
  expires : Instant
  disabled : Bool
  scopes : List Text
  expandedScopes : List Text
  details : ClientDetails
deriving DecidableEq

namespace ClientSnapshot

/-- The snapshot of a client with its expansion. -/
def of (c : Client) (expandedScopes : List Text) : ClientSnapshot :=
  ⟨c.id, c.description, c.expires, c.disabled, c.scopes, expandedScopes, c.details⟩

/-- Whether the client has expired. -/
def isExpired (s : ClientSnapshot) (now : Instant) : Bool := s.expires.noLater now

/-- The snapshot as a record. -/
def toJson (s : ClientSnapshot) : Json :=
  .object
    ([("clientId".toList, .text s.id), ("description".toList, .text s.description),
      ("expires".toList, .instant s.expires), ("disabled".toList, .bool s.disabled),
      ("scopes".toList, .texts s.scopes), ("expandedScopes".toList, .texts s.expandedScopes)]
      ++ s.details.members)

end ClientSnapshot

end DelegatedScopes
