import DelegatedScopes.Json.Record

/-!
# Configuration

How stale a client's last use may get before it is written back, and how many scopes one expansion
may take.  Both come from a document or from the environment, and both have defaults.

* `Duration`: a span of time.
* `Config.reader`: reading a configuration document.
* `Config.ofEnvironment`: the configuration that the environment asks for.
-/

namespace DelegatedScopes

open Json (Field Reader Schema)

/-! ### Durations -/

/-- A span of time, in nanoseconds. -/
structure Duration where
  nanos : Nat
deriving DecidableEq

namespace Duration

/-- So many seconds. -/
def ofSeconds (n : Nat) : Duration := ⟨n * 1000000000⟩

/-- The whole seconds of a duration. -/
def seconds (d : Duration) : Nat := d.nanos / 1000000000

/-- A number stands for so many seconds. -/
instance : Coe Nat Duration := ⟨ofSeconds⟩

instance (n : Nat) : OfNat Duration n := ⟨ofSeconds n⟩

end Duration

/-! ### Configurations -/

/-- The limits that a service keeps: the staleness of a last use, and the scopes that one expansion
may take. -/
structure Config where
  staleness : Duration
  maxSteps : Nat
deriving DecidableEq

namespace Config

/-- Six hours, and a million scopes. -/
def standard : Config := ⟨21600, 1000000⟩

/-- The staleness as a record of the configuration gives it, in whole seconds. -/
def lastUsedDelay (c : Config) : Nat := c.staleness.seconds

/-- The configuration that two environment variables ask for.  One that is not a number counts as
not set, and so does a limit of no scopes at all. -/
def ofEnvironment (delay steps : Option Text) : Config where
  staleness := ((delay.bind Text.natural?).map .ofSeconds).getD standard.staleness
  maxSteps := ((steps.bind Text.natural?).filter (0 < ·)).getD standard.maxSteps

/-- The parts of a configuration. -/
structure Parts where
  staleness : Option Duration
  maxSteps : Option Nat

/-- A configuration as a record. -/
def schema : Schema Parts Config where
  name := "ResolverConfig"
  fields :=
    [.part "maxLastUsedDelay" Parts.staleness (fun d p => { p with staleness := some d })
      ((Reader.natural "u64".toList).map .ofSeconds),
     .part "maxExpansionSteps" Parts.maxSteps
      (fun n p => { p with maxSteps := some n }) (.natural "usize".toList)]
  blank := ⟨none, none⟩
  finish _ p := .ok ⟨p.staleness.getD standard.staleness, p.maxSteps.getD standard.maxSteps⟩

/-- Reads a configuration. -/
def reader : Reader Config := schema.reader

end Config

end DelegatedScopes
