import DelegatedScopes.Client.Basic
import DelegatedScopes.Resolver.Error
import DelegatedScopes.Role.Basic
import DelegatedScopes.Store.Channel

/-!
# The store

Roles and clients in memory, by id.  Every change of a role or a client is sent to the newest
subscription; when a client was last used is not a change.  While the store is marked unavailable,
nothing can be listed or written back, but roles and clients can still be put and deleted.

* `Store.ofEntries`: a store with the given roles and clients.
* `Store.putRole`, `Store.deleteRole`, `Store.putClient`, `Store.deleteClient`: changes.
* `Store.listRoles`, `Store.listClients`, `Store.touch`: what a service asks of a store.
* `Store.subscribe`: a new channel; the one before it gets nothing more.
-/

namespace DelegatedScopes

/-- A store.  A channel is known by its index; only the last one is sent to. -/
structure Store where
  roles : Std.TreeMap Text Role
  clients : Std.TreeMap Text Client
  channels : Array Channel
  unavailable : Bool
  touches : Nat

namespace Store

/-- A store with the given roles and clients.  Of two with the same id the later one counts. -/
def ofEntries (roles : List Role) (clients : List Client) : Store where
  roles := roles.foldl (fun known r => known.insert r.id r) ∅
  clients := clients.foldl (fun known c => known.insert c.id c) ∅
  channels := #[]
  unavailable := false
  touches := 0

/-! ### Subscriptions -/

/-- Changes the channel at an index. -/
def onChannel (s : Store) (i : Nat) (f : Channel → Channel) : Store :=
  { s with channels := s.channels.modify i f }

/-- A new channel, and the store that sends to it from now on. -/
def subscribe (s : Store) (capacity : Nat) : Nat × Store :=
  (s.channels.size, { s with channels := s.channels.push (.new capacity) })

/-- Sends a change to the newest subscription. -/
def notify (s : Store) (change : Change) : Store :=
  s.onChannel (s.channels.size - 1) (·.send change)

/-- Whether a channel may still get changes. -/
def isFed (s : Store) (i : Nat) : Bool := i + 1 == s.channels.size

/-- Takes the oldest change from a channel. -/
def receive? (s : Store) (i : Nat) : Option (Change × Store) := do
  let (change, channel) ← (← s.channels[i]?).receive?
  return (change, s.onChannel i fun _ => channel)

/-- Gives up receiving from a channel. -/
def close (s : Store) (i : Nat) : Store := s.onChannel i Channel.close

/-! ### Changes -/

/-- Adds a role, or replaces the one with its id. -/
def putRole (s : Store) (r : Role) : Store :=
  { s with roles := s.roles.insert r.id r }.notify .roles

/-- Deletes a role, and says whether there was one. -/
def deleteRole (s : Store) (id : Text) : Bool × Store :=
  if s.roles.contains id then (true, { s with roles := s.roles.erase id }.notify .roles)
  else (false, s)

/-- Adds a client, or replaces the one with its id. -/
def putClient (s : Store) (c : Client) : Store :=
  { s with clients := s.clients.insert c.id c }.notify .clients

/-- Deletes a client, and says whether there was one. -/
def deleteClient (s : Store) (id : Text) : Bool × Store :=
  if s.clients.contains id then (true, { s with clients := s.clients.erase id }.notify .clients)
  else (false, s)

/-- The client with an id. -/
def client? (s : Store) (id : Text) : Option Client := s.clients[id]?

/-! ### Requests of a service -/

/-- Refuses while the store is unavailable. -/
def checkAvailable (s : Store) : Except ResolutionError Unit :=
  if s.unavailable then
    .error (.sourceUnavailable "in-memory store is marked unavailable".toList)
  else .ok ()

/-- The roles, by id. -/
def listRoles (s : Store) : Except ResolutionError (List Role) :=
  s.checkAvailable.map fun _ => s.roles.values

/-- The clients, by id. -/
def listClients (s : Store) : Except ResolutionError (List Client) :=
  s.checkAvailable.map fun _ => s.clients.values

/-- A client that was last used at an instant. -/
def usedAt (c : Client) (moment : Instant) : Client :=
  { c with details := { c.details with lastUsed := moment } }

/-- Notes that a client was used, and counts the note, even of a client that is gone. -/
def touch (s : Store) (id : Text) (moment : Instant) : Except ResolutionError Store :=
  s.checkAvailable.map fun _ =>
    { s with
      touches := s.touches + 1
      clients := s.clients.modify id fun c => usedAt c moment }

end Store

end DelegatedScopes
