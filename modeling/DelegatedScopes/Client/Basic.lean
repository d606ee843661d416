import DelegatedScopes.Instant.Rfc3339
import DelegatedScopes.Text.Quoted

/-!
# Clients

A client holds its own scopes and, whatever its id, the scope that assumes its own role.  Its
access token is compared by whoever admits the client; it is never shown.

* `Client.isExpired`: whether the client has run out.
* `Client.activationScopes`: the scopes its expansion starts from.
* `Client.describe`: the client in words, for logs.
-/

namespace DelegatedScopes

/-- When a client was made, last changed, last used, and last given a new token. -/
structure ClientDetails where
  created : Instant
  lastModified : Instant
  lastUsed : Instant
  lastRotated : Instant
deriving DecidableEq

/-- A client. -/
structure Client where
  id : Text
  description : Text
  accessToken : Text
  expires : Instant
  scopes : List Text
  disabled : Bool
  details : ClientDetails
deriving DecidableEq

/-- The details of a client made at an instant. -/
def ClientDetails.new (now : Instant) : ClientDetails := ⟨now, now, now, now⟩

namespace Client

/-- Whether the client has expired: it is gone at the very instant it expires. -/
def isExpired (c : Client) (now : Instant) : Bool := c.expires.noLater now

/-- The scopes that the client's expansion starts from. -/
def activationScopes (c : Client) : List Text :=
  c.scopes ++ ["assume:client-id:".toList ++ c.id]

end Client

/-! ### In words -/

/-- A record in words: its name, and its fields with their values. -/
def describeRecord (name : String) (fields : List (String × Text)) : Text :=
  name.toList ++ " \x7b ".toList
    ++ Text.join ", ".toList (fields.map fun f => f.1.toList ++ ": ".toList ++ f.2)
    ++ " \x7d".toList

/-- The details in words. -/
def ClientDetails.describe (d : ClientDetails) : Text :=
  describeRecord "ClientDetails"
    [("created", d.created.write), ("last_modified", d.lastModified.write),
     ("last_date_used", d.lastUsed.write), ("last_rotated", d.lastRotated.write)]

/-- The client in words, with a mark in place of its token. -/
def Client.describe (c : Client) : Text :=
  describeRecord "Client"
    [("client_id", Text.quoted c.id),
     ("description", Text.quoted c.description),
     ("access_token", Text.quoted "<redacted>".toList),
     ("expires", c.expires.write),
     ("scopes", '[' :: Text.join ", ".toList (c.scopes.map Text.quoted) ++ [']']),
     ("disabled", (if c.disabled then "true" else "false").toList),
     ("details", c.details.describe)]

end DelegatedScopes
