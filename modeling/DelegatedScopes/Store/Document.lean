import DelegatedScopes.Client.Document
import DelegatedScopes.Role.Document
import DelegatedScopes.Store.Basic

/-!
# The store — documents

A store is loaded from an array of roles and an array of clients.

* `Store.ofDocuments`: a store from two documents.
-/

namespace DelegatedScopes.Store

/-- A store from a document with its roles and, perhaps, one with its clients, which is read after
the first. -/
def ofDocuments (now : Instant) (roles : Text) (clients : Option Text) :
    Except Json.Error Store := do
  let roles ← (Json.Reader.list (Role.reader now)).document roles
  let clients ← match clients with
    | some clients => (Json.Reader.list (Client.reader now)).document clients
    | none => .ok []
  .ok (ofEntries roles clients)

end DelegatedScopes.Store
