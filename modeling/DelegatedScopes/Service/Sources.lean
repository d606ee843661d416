import DelegatedScopes.Store.Basic

/-!
# The service — sources

What a service reads: the store, behind a connection that may fail or hang.  Listing roles and
listing clients can each be made to fail, and the next listing of roles can be held until it is
let go.  Notes about clients always get through to the store.

* `Sources.arrive`: a service starts to list roles.
* `Sources.listRoles`, `Sources.listClients`: the listings.
-/

namespace DelegatedScopes

/-- A store and the state of the connection to it: why listings fail, if they do, whether the next
listing of roles is to be held, whether one is held, and how many that are still to come have been
let go already. -/
structure Sources where
  store : Store
  rolesOutage : Option Text
  clientsOutage : Option Text
  gateClosed : Bool
  holding : Bool
  passes : Nat

namespace Sources

/-- A store with a connection that works. -/
def ofStore (store : Store) : Sources := ⟨store, none, none, false, false, 0⟩

/-- Changes the store. -/
def mapStore (s : Sources) (f : Store → Store) : Sources := { s with store := f s.store }

/-- A listing of roles starts.  A closed gate holds it, unless it has been let go already, and is
open for the next one. -/
def arrive (s : Sources) : Sources :=
  if s.gateClosed then
    { s with gateClosed := false, holding := s.passes = 0, passes := s.passes - 1 }
  else s

/-- Closes the gate for the next listing of roles. -/
def closeGate (s : Sources) : Sources := { s with gateClosed := true }

/-- Lets a held listing go on, or the next one that would be held. -/
def release (s : Sources) : Sources :=
  if s.holding then { s with holding := false } else { s with passes := s.passes + 1 }

/-- Fails if there is an outage. -/
def through (outage : Option Text) : Except ResolutionError Unit :=
  match outage with
  | some reason => .error (.sourceUnavailable reason)
  | none => .ok ()

/-- The roles. -/
def listRoles (s : Sources) : Except ResolutionError (List Role) := do
  through s.rolesOutage
  s.store.listRoles

/-- The clients. -/
def listClients (s : Sources) : Except ResolutionError (List Client) := do
  through s.clientsOutage
  s.store.listClients

end Sources

end DelegatedScopes
