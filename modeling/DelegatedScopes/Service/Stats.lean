import DelegatedScopes.Service.Basic

/-!
# The service — statistics

* `Service.stats`: what a service has counted, with the sizes of its snapshots.
* `hitRate`: the share of client expansions that were kept.
-/

namespace DelegatedScopes

/-- The share of hits, zero when nothing was counted.  Both counts, and their sum, are taken in 64
bits. -/
def hitRate (hits misses : Nat) : Float :=
  let total := hits.toUInt64 + misses.toUInt64
  if total = 0 then 0 else hits.toUInt64.toFloat / total.toFloat

/-- The statistics of a service. -/
structure ServiceStats where
  counters : Counters
  generation : Nat
  roles : Nat
  clients : Nat
  trackedLastUsed : Nat
deriving DecidableEq

/-- The statistics of the moment. -/
def Service.stats (s : Service) : ServiceStats where
  counters := s.counters
  generation := s.generation
  roles := s.resolver.size
  clients := s.table.clients.size
  trackedLastUsed := s.touched.size

/-- The statistics as a record. -/
def ServiceStats.toJson (s : ServiceStats) : Json :=
  .object
    [("resolves".toList, .number s.counters.resolves),
     ("rebuilds".toList, .number s.counters.rebuilds),
     ("rebuildFailures".toList, .number s.counters.rebuildFailures),
     ("clientCacheHits".toList, .number s.counters.cacheHits),
     ("clientCacheMisses".toList, .number s.counters.cacheMisses),
     ("lastUsedWrites".toList, .number s.counters.lastUsedWrites),
     ("generation".toList, .number s.generation),
     ("roles".toList, .number s.roles),
     ("clients".toList, .number s.clients),
     ("trackedLastUsed".toList, .number s.trackedLastUsed)]

end DelegatedScopes
