import DelegatedScopes.Service.Basic

/-!
# The service — queries

Queries are answered from the snapshots of the moment.  They are refused until the first load is
done.  The expansion of a client is kept for as long as both snapshots stay.

A client that is asked for counts as used.  Its last use is written back, but not more often than
the configuration says; what was written back is remembered, since the table of clients lags behind
the store.

* `Service.resolve`, `Service.loadRole`, `Service.loadClient`: the queries.
-/

namespace DelegatedScopes.Service

/-- Whether the first load is done. -/
def isReady (s : Service) : Bool := s.lifecycle != .uninitialized

/-- The expansion of a scope set. -/
def resolve (s : Service) (scopes : List Text) : Except ResolutionError (List Text) × Service :=
  if s.isReady then
    (s.resolver.resolve scopes, s.count fun c => { c with resolves := c.resolves + 1 })
  else (.error .notReady, s)

/-- A role with its expansion. -/
def loadRole (s : Service) (id : Text) : Except ResolutionError (Option RoleSnapshot) :=
  if s.isReady then
    match s.resolver.expandRole id with
    | .error e => .error e
    | .ok none => .ok none
    | .ok (some expanded) => .ok ((s.resolver.role? id).map fun r => ⟨r, expanded⟩)
  else .error .notReady

/-! ### Clients -/

/-- The expansion that was kept of a client, unless a snapshot has changed since. -/
def cached? (s : Service) (id : Text) : Option (List Text) :=
  match s.expansions[id]? with
  | some kept =>
    if kept.generation = s.generation ∧ kept.epoch = s.table.epoch then some kept.scopes else none
  | none => none

/-- The expansion of a client of the table. -/
def expansionOf (s : Service) (c : Client) : Except ResolutionError (List Text) × Service :=
  match s.cached? c.id with
  | some scopes => (.ok scopes, s.count fun n => { n with cacheHits := n.cacheHits + 1 })
  | none =>
    let s := s.count fun n => { n with cacheMisses := n.cacheMisses + 1 }
    match s.resolver.resolve c.activationScopes with
    | .error e => (.error e, s)
    | .ok scopes =>
      let kept : CachedExpansion := ⟨s.generation, s.table.epoch, scopes⟩
      (.ok scopes, { s with expansions := s.expansions.insert c.id kept })

/-- Whether a last use is too old to be left alone. -/
def isStale (s : Service) (lastUsed now : Instant) : Bool :=
  (s.config.staleness.nanos : Int) < now.since lastUsed

/-- The last use of a client, as far as the service knows. -/
def lastUse (s : Service) (c : Client) : Instant :=
  match s.touched[c.id]? with
  | some written => Instant.latest written c.details.lastUsed
  | none => c.details.lastUsed

/-- Issues a note that a client was used. -/
def writeBack (s : Service) (id : Text) (now : Instant) : Service :=
  { s.count fun n => { n with lastUsedWrites := n.lastUsedWrites + 1 } with
    writeBacks := s.writeBacks ++ [⟨id, now⟩] }

/-- Notes that a client is used, and gives its last use.  What was written back before is looked at
once more on its own, since by a leap second it can be fresh when the later of the two is not. -/
def recordUse (s : Service) (c : Client) (now : Instant) : Instant × Service :=
  if s.isStale (s.lastUse c) now then
    let noted := { s with touched := s.touched.insert c.id now }
    match s.touched[c.id]? with
    | some written =>
      if s.isStale written now then (now, noted.writeBack c.id now) else (written, noted)
    | none => (now, noted.writeBack c.id now)
  else (s.lastUse c, s)

/-- A client with its expansion.  The clock says `now`. -/
def loadClient (s : Service) (id : Text) (now : Instant) :
    Except ResolutionError (Option ClientSnapshot) × Service :=
  if s.isReady then
    match s.table.clients[id]? with
    | none => (.ok none, s)
    | some c =>
      match s.expansionOf c with
      | (.error e, s) => (.error e, s)
      | (.ok expanded, s) =>
        let (lastUsed, s) := s.recordUse c now
        let snapshot := ClientSnapshot.of c expanded
        (.ok (some { snapshot with details := { snapshot.details with lastUsed } }), s)
  else (.error .notReady, s)

end DelegatedScopes.Service
