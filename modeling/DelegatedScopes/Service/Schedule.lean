import DelegatedScopes.Arithmetic
import DelegatedScopes.Service.Machine

/-!
# The service — taking turns

One fair way for tasks to take turns: notes reach the store, and then the tasks go on one after the
other, in the order in which they were started and each until it has to wait, until none of them
can go on.

* `Machine.settle`: the machine when nothing can go on any more.
* `Machine.endedSince`, `Machine.pendingJobs`: how the calls that were started have fared.
-/

namespace DelegatedScopes

/-! ### The work that is left -/

/-- The moves that a stage is away from the end of its rebuild. -/
def Stage.workLeft : Stage → Nat
  | .queued => 4
  | .listingRoles => 3
  | .listingClients _ => 2
  | .loaded _ _ => 1

/-- A bound on the moves that a task makes without outside help.  The end of a setup may start a
worker and a listener. -/
def Task.workLeft (t : Task) : Nat :=
  match t.phase with
  | .fresh =>
    match t.duty with
    | .setup _ => 11
    | .rebuildNow => 6
    | .work => 1
    | .listen _ => 2
  | .atSetupLock => 10
  | .rebuilding _ stage =>
    match t.duty with
    | .setup _ => stage.workLeft + 5
    | _ => stage.workLeft + 1
  | .parked =>
    match t.duty with
    | .listen _ => 1
    | _ => 0
  | .draining => 1
  | .ended _ => 0

namespace Machine

/-- A bound on the moves that all tasks make without outside help: every change that waits in a
channel may set a flag and wake the worker, and every flag may cause a rebuild. -/
def workLeft (m : Machine) : Nat :=
  let waiting := total (m.sources.store.channels.toList.map fun c => c.waiting.length)
  let flags := m.service.pendingRoles.toNat + m.service.pendingClients.toNat
  8 * waiting + 5 * flags + 2 * m.service.awake.toNat + total (m.tasks.map Task.workLeft)

/-! ### Turns -/

/-- Task `i` goes on until it has to wait, or has made a number of moves. -/
def runTask (i : Nat) : (moves : Nat) → Machine → Machine
  | 0, m => m
  | moves + 1, m =>
    match m.move? i with
    | some m => runTask i moves m
    | none => m

/-- Every task has its turn. -/
def pass (m : Machine) : Machine :=
  (List.range m.tasks.length).foldl (fun m i => m.runTask i m.workLeft) m

/-- Whether no task can go on. -/
def isIdle (m : Machine) : Bool := (List.range m.tasks.length).all fun i => (m.move? i).isNone

/-- Turns, until no task can go on or a number of rounds is over. -/
def passes : (rounds : Nat) → Machine → Machine
  | 0, m => m
  | rounds + 1, m => if m.isIdle then m else passes rounds m.pass

/-- All notes reach the store, or as many as a number says. -/
def carryOut : (notes : Nat) → Machine → Machine
  | 0, m => m
  | notes + 1, m =>
    match m.carryOut? with
    | some m => carryOut notes m
    | none => m

/-- Everything goes on until nothing can any more. -/
def settle (m : Machine) : Machine :=
  let m := m.carryOut m.service.writeBacks.length
  m.passes m.workLeft

/-! ### Calls -/

/-- The result of a call that has ended; the worker and listeners are not calls. -/
def result? (t : Task) : Option (Except ResolutionError Unit) :=
  match t.duty, t.phase with
  | .setup _, .ended result | .rebuildNow, .ended result => some result
  | _, _ => none

/-- Whether a call has not ended yet. -/
def isPending (t : Task) : Bool :=
  match t.duty with
  | .setup _ | .rebuildNow => (result? t).isNone
  | .work | .listen _ => false

/-- The number of calls that have not ended yet. -/
def pendingJobs (m : Machine) : Nat := m.tasks.countP isPending

/-- The results of the calls that have ended since an earlier moment, in the order in which the
calls were started. -/
def endedSince (m earlier : Machine) : List (Except ResolutionError Unit) :=
  (List.range m.tasks.length).filterMap fun i =>
    match earlier.tasks[i]?.bind result?, m.tasks[i]?.bind result? with
    | none, some result => some result
    | _, _ => none

end Machine

end DelegatedScopes
