import DelegatedScopes.Client.Snapshot
import DelegatedScopes.Config
import DelegatedScopes.Resolver.Basic
import DelegatedScopes.Role.Snapshot
import DelegatedScopes.Store.Channel

/-!
# The service

A service answers from two snapshots, a resolver and a table of clients, which rebuilds replace as
a whole.  Nothing it does to answer waits for anything.

* `Service`: the state that queries and rebuilds share.
* `Service.new`: a service that has not loaded anything.
* `Service.request`: asks for a rebuild.
-/

namespace DelegatedScopes

/-- Whether a service has loaded its first snapshots, and whether a rebuild is under way. -/
inductive Lifecycle
  | uninitialized
  | ready
  | rebuilding
deriving DecidableEq

/-- The lifecycle in a word. -/
def Lifecycle.name : Lifecycle → String
  | .uninitialized => "Uninitialized"
  | .ready => "Ready"
  | .rebuilding => "Rebuilding"

/-- The clients of one snapshot, by id, with the number of the snapshot. -/
structure ClientTable where
  epoch : Nat
  clients : Std.TreeMap Text Client

/-- The expansion of a client, and the snapshots that it was worked out from. -/
structure CachedExpansion where
  generation : Nat
  epoch : Nat
  scopes : List Text
deriving DecidableEq

/-- What a service has counted. -/
structure Counters where
  resolves : Nat
  rebuilds : Nat
  rebuildFailures : Nat
  cacheHits : Nat
  cacheMisses : Nat
  lastUsedWrites : Nat
deriving DecidableEq

/-- A note for the store that a client was used. -/
structure WriteBack where
  clientId : Text
  usedAt : Instant
deriving DecidableEq

/-- A service.

`touched` has the last use that was written back of each client, until the table of clients has
caught up with it; `writeBacks` are the notes on their way to the store, the oldest first.
`pendingRoles` and `pendingClients` say what has to be read again, and `awake` that the worker has
been told so.  `started` says that the first load is done and the worker runs. -/
structure Service where
  config : Config
  lifecycle : Lifecycle
  resolver : Resolver
  table : ClientTable
  expansions : Std.TreeMap Text CachedExpansion
  touched : Std.TreeMap Text Instant
  counters : Counters
  writeBacks : List WriteBack
  started : Bool
  pendingRoles : Bool
  pendingClients : Bool
  awake : Bool

namespace Service

/-- A service that has not loaded anything. -/
def new (config : Config) : Service where
  config
  lifecycle := .uninitialized
  resolver := .compile [] config.maxSteps
  table := ⟨0, ∅⟩
  expansions := ∅
  touched := ∅
  counters := ⟨0, 0, 0, 0, 0, 0⟩
  writeBacks := []
  started := false
  pendingRoles := false
  pendingClients := false
  awake := false

/-- The number of the resolver's snapshot, zero before the first. -/
def generation (s : Service) : Nat := s.resolver.generation

/-- Changes the counters. -/
def count (s : Service) (f : Counters → Counters) : Service := { s with counters := f s.counters }

/-- Asks for a rebuild after a change, and wakes the worker. -/
def request (s : Service) : Change → Service
  | .roles => { s with pendingRoles := true, awake := true }
  | .clients => { s with pendingClients := true, awake := true }

/-- The service in words, for logs. -/
def describe (s : Service) : Text :=
  describeRecord "ScopeResolverService"
    [("state", s.lifecycle.name.toList), ("generation", Text.decimal s.generation)]

end Service

end DelegatedScopes
