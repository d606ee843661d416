import DelegatedScopes.Service.Basic

/-!
# The service — rebuilds

A rebuild reads roles, clients or both again and then replaces the snapshots in one step.  If
anything fails before that step, the snapshots stay.

* `Service.beginRebuild`, `Service.publish`, `Service.giveUp`: the start and the two ends of a
  rebuild.
-/

namespace DelegatedScopes

/-- What a rebuild reads again. -/
structure Reload where
  roles : Bool
  clients : Bool
deriving DecidableEq

/-- Both roles and clients. -/
def Reload.everything : Reload := ⟨true, true⟩

namespace Service

/-- A rebuild begins.  Before the first load is done it does not show. -/
def beginRebuild (s : Service) : Service :=
  if s.lifecycle = .uninitialized then s else { s with lifecycle := .rebuilding }

/-- Replaces the resolver. -/
def publishResolver (s : Service) (r : Resolver) : Service :=
  { s with resolver := r.withGeneration (s.generation + 1) }

/-- Whether a last use that was written back is still ahead of a table of clients. -/
def isAhead (clients : Std.TreeMap Text Client) (id : Text) (written : Instant) : Bool :=
  match clients[id]? with
  | some c => c.details.lastUsed.earlier written
  | none => false

/-- Replaces the table of clients.  No expansion is kept, and of what was written back only what
the table has not caught up with. -/
def publishClients (s : Service) (listed : List Client) : Service :=
  let clients : Std.TreeMap Text Client := listed.foldl (fun known c => known.insert c.id c) ∅
  { s with
    table := ⟨s.table.epoch + 1, clients⟩
    touched := s.touched.filter (isAhead clients)
    expansions := ∅ }

/-- A rebuild ends with new snapshots. -/
def publish (s : Service) (resolver : Option Resolver) (clients : Option (List Client)) :
    Service :=
  let s := resolver.elim s s.publishResolver
  let s := clients.elim s s.publishClients
  { s.count fun c => { c with rebuilds := c.rebuilds + 1 } with lifecycle := .ready }

/-- A rebuild ends without new snapshots. -/
def giveUp (s : Service) : Service :=
  { s.count fun c => { c with rebuildFailures := c.rebuildFailures + 1 } with
    lifecycle := if s.lifecycle = .uninitialized then .uninitialized else .ready }

end Service

end DelegatedScopes
