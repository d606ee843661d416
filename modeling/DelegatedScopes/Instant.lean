/-!
# Instants

A point in time, to the nanosecond.  A leap second has no second of its own: it is counted with
the second before it, and its nanoseconds run from one thousand million to twice that.

* `Instant.order`: earlier instants come first.
* `Instant.since`: the nanoseconds from one instant to another.
-/

namespace DelegatedScopes

/-- Seconds since the start of 1970, and the nanoseconds into that second. -/
structure Instant where
  second : Int
  nano : Nat
deriving DecidableEq

namespace Instant

/-- Earlier instants come first; a leap second comes after the second it is counted with. -/
def order (a b : Instant) : Ordering :=
  (compare a.second b.second).then (compare a.nano b.nano)

/-- `a` is no later than `b`. -/
def noLater (a b : Instant) : Bool := (order a b).isLE

/-- `a` is earlier than `b`. -/
def earlier (a b : Instant) : Bool := (order a b).isLT

/-- The later of two instants. -/
def latest (a b : Instant) : Instant := if noLater a b then b else a

/-- Whether an instant is a leap second. -/
def isLeap (i : Instant) : Bool := 1000000000 ≤ i.nano

/-- The second that a leap second adds to the time between two instants: the leap second of the
instant with the earlier time of day has passed, that of the other one has not. -/
def leapBetween (now past : Instant) : Int :=
  match compare (now.second % 86400) (past.second % 86400) with
  | .gt => if past.isLeap then 1 else 0
  | .eq => 0
  | .lt => if now.isLeap then -1 else 0

/-- The nanoseconds from `past` to `now`, negative when `past` is the later one. -/
def since (now past : Instant) : Int :=
  (now.second - past.second + leapBetween now past) * 1000000000 + (now.nano - past.nano)

/-- The instant some nanoseconds after the start of a second. -/
def plusNanos (i : Instant) (nanos : Nat) : Instant :=
  let total := i.nano + nanos
  ⟨i.second + total / 1000000000, total % 1000000000⟩

end Instant

end DelegatedScopes
