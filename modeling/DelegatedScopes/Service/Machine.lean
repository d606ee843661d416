import DelegatedScopes.Service.Query
import DelegatedScopes.Service.Rebuild
import DelegatedScopes.Service.Sources

/-!
# The service — tasks

A service runs together with its sources and with tasks that take turns: calls that set the service
up or rebuild it at once, a worker that rebuilds whatever has changed, and a listener that hands
the changes of a channel to the worker.  A task goes on alone until it has to wait; between two
moves of a task anything else may happen.

Two locks, each with a queue whose head holds it, keep tasks apart: one lets a single call set the
service up, the other lets a single rebuild run.

* `Task`, `Machine`: the tasks, and everything together.
* `Machine.move?`: the next move of a task, unless it has to wait.
* `Machine.deliver?`, `Machine.carryOut?`: a note, or the oldest one, reaches the store.
-/

namespace DelegatedScopes

/-- How far a rebuild has come: it waits for its turn, it reads roles, it reads clients, or it has
read everything.  What was read is kept, roles as the resolver built from them. -/
inductive Stage
  | queued
  | listingRoles
  | listingClients (resolver : Option Resolver)
  | loaded (resolver : Option Resolver) (clients : Option (List Client))

/-- What a task is for: to set the service up, with the channel it was given; to rebuild at once;
to rebuild whatever has changed; to listen to a channel. -/
inductive Duty
  | setup (channel : Option Nat)
  | rebuildNow
  | work
  | listen (channel : Nat)
deriving DecidableEq

/-- Where a task stands. -/
inductive Phase
  | fresh
  | atSetupLock
  | rebuilding (reload : Reload) (stage : Stage)
  | parked
  | draining
  | ended (result : Except ResolutionError Unit)

/-- A task. -/
structure Task where
  duty : Duty
  phase : Phase

/-- A service with its sources and its tasks.  Tasks are known by their index, and the queues of
the two locks hold indexes. -/
structure Machine where
  service : Service
  sources : Sources
  tasks : List Task
  setupQueue : List Nat
  rebuildQueue : List Nat

namespace Machine

/-- A service that has not loaded anything, over a store. -/
def new (config : Config) (store : Store) : Machine := ⟨.new config, .ofStore store, [], [], []⟩

/-- Changes the service. -/
def mapService (m : Machine) (f : Service → Service) : Machine :=
  { m with service := f m.service }

/-- Changes the store. -/
def mapStore (m : Machine) (f : Store → Store) : Machine :=
  { m with sources := m.sources.mapStore f }

/-- Starts a task.  It makes no move yet. -/
def start (m : Machine) (duty : Duty) : Machine := { m with tasks := m.tasks ++ [⟨duty, .fresh⟩] }

/-- Puts a task into a phase. -/
def setPhase (m : Machine) (i : Nat) (phase : Phase) : Machine :=
  { m with tasks := m.tasks.modify i fun t => { t with phase } }

/-! ### Setting up -/

/-- A task asks for the setup lock. -/
def queueSetup (m : Machine) (i : Nat) : Machine :=
  { m.setPhase i .atSetupLock with setupQueue := m.setupQueue ++ [i] }

/-- A setup ends, and lets go of the setup lock. -/
def leaveSetup (m : Machine) (i : Nat) (result : Except ResolutionError Unit) : Machine :=
  { m.setPhase i (.ended result) with setupQueue := m.setupQueue.tail }

/-- Gives up a channel that nobody will listen to. -/
def discard (m : Machine) (channel : Option Nat) : Machine :=
  channel.elim m fun c => m.mapStore (·.close c)

/-- Starts the worker, and a listener if there is a channel to listen to. -/
def launch (m : Machine) (channel : Option Nat) : Machine :=
  let m := m.start .work
  let m := channel.elim m fun c => m.start (.listen c)
  m.mapService fun s => { s with started := true }

/-! ### Rebuilding -/

/-- A task asks for the rebuild lock. -/
def queueRebuild (m : Machine) (i : Nat) (reload : Reload) : Machine :=
  { m.setPhase i (.rebuilding reload .queued) with rebuildQueue := m.rebuildQueue ++ [i] }

/-- What a task does when its rebuild is over. -/
def resume (m : Machine) (i : Nat) (result : Except ResolutionError Unit) : Duty → Machine
  | .setup channel =>
    match result with
    | .ok () => (m.launch channel).leaveSetup i result
    | .error _ => (m.discard channel).leaveSetup i result
  | .work => m.setPhase i .draining
  | .rebuildNow | .listen _ => m.setPhase i (.ended result)

/-- A rebuild lets go of the rebuild lock, and its task goes on. -/
def leaveRebuild (m : Machine) (i : Nat) (duty : Duty) (result : Except ResolutionError Unit) :
    Machine :=
  { m with rebuildQueue := m.rebuildQueue.tail }.resume i result duty

/-- A rebuild fails. -/
def failRebuild (m : Machine) (i : Nat) (duty : Duty) (e : ResolutionError) : Machine :=
  (m.mapService Service.giveUp).leaveRebuild i duty (.error e)

/-- The roles of a rebuild are read, or were not asked for. -/
def rolesLoaded (m : Machine) (i : Nat) (reload : Reload) (resolver : Option Resolver) : Machine :=
  m.setPhase i <| .rebuilding reload <|
    if reload.clients then .listingClients resolver else .loaded resolver none

/-- A rebuild has its turn, and starts to read. -/
def enterRebuild (m : Machine) (i : Nat) (reload : Reload) : Machine :=
  let m := m.mapService Service.beginRebuild
  if reload.roles then
    { m with sources := m.sources.arrive }.setPhase i (.rebuilding reload .listingRoles)
  else m.rolesLoaded i reload none

/-- What a rebuild makes of the roles it asked for. -/
def takeRoles (m : Machine) (i : Nat) (duty : Duty) (reload : Reload) :
    Except ResolutionError (List Role) → Machine
  | .error e => m.failRebuild i duty e
  | .ok roles =>
    match Resolver.build roles m.service.config.maxSteps with
    | .error e => m.failRebuild i duty e
    | .ok resolver => m.rolesLoaded i reload (some resolver)

/-- What a rebuild makes of the clients it asked for. -/
def takeClients (m : Machine) (i : Nat) (duty : Duty) (reload : Reload)
    (resolver : Option Resolver) : Except ResolutionError (List Client) → Machine
  | .error e => m.failRebuild i duty e
  | .ok clients => m.setPhase i (.rebuilding reload (.loaded resolver (some clients)))

/-- The next move of a rebuild. -/
def advance? (m : Machine) (i : Nat) (duty : Duty) (reload : Reload) : Stage → Option Machine
  | .queued => if m.rebuildQueue.head? = some i then some (m.enterRebuild i reload) else none
  | .listingRoles =>
    if m.sources.holding then none else some (m.takeRoles i duty reload m.sources.listRoles)
  | .listingClients resolver => some (m.takeClients i duty reload resolver m.sources.listClients)
  | .loaded resolver clients =>
    some ((m.mapService (·.publish resolver clients)).leaveRebuild i duty (.ok ()))

/-! ### Moves -/

/-- The first move of a task. -/
def begin (m : Machine) (i : Nat) : Duty → Machine
  | .setup _ => m.queueSetup i
  | .rebuildNow =>
    if m.service.started then m.queueRebuild i .everything
    else m.setPhase i (.ended (.error .notReady))
  | .work | .listen _ => m.setPhase i .parked

/-- The move of a setup that has its turn.  After the first that succeeded, setups do nothing. -/
def enterSetup (m : Machine) (i : Nat) (channel : Option Nat) : Machine :=
  if m.service.started then (m.discard channel).leaveSetup i (.ok ())
  else m.queueRebuild i .everything

/-- The worker looks what has changed. -/
def drain (m : Machine) (i : Nat) : Machine :=
  let reload : Reload := ⟨m.service.pendingRoles, m.service.pendingClients⟩
  if reload.roles || reload.clients then
    (m.mapService fun s => { s with pendingRoles := false, pendingClients := false }).queueRebuild
      i reload
  else m.setPhase i .parked

/-- The listener takes a change from its channel and hands it on; it ends when the channel is empty
and gets no more. -/
def listen? (m : Machine) (i channel : Nat) : Option Machine :=
  match m.sources.store.receive? channel with
  | some (change, store) => some ((m.mapStore fun _ => store).mapService (·.request change))
  | none => if m.sources.store.isFed channel then none else some (m.setPhase i (.ended (.ok ())))

/-- The next move of a task, unless it has ended or has to wait. -/
def move? (m : Machine) (i : Nat) : Option Machine := do
  let task ← m.tasks[i]?
  match task.phase, task.duty with
  | .fresh, duty => some (m.begin i duty)
  | .atSetupLock, .setup channel =>
    if m.setupQueue.head? = some i then some (m.enterSetup i channel) else none
  | .rebuilding reload stage, duty => m.advance? i duty reload stage
  | .parked, .work =>
    if m.service.awake then
      some ((m.mapService fun s => { s with awake := false }).setPhase i .draining)
    else none
  | .parked, .listen channel => m.listen? i channel
  | .draining, .work => some (m.drain i)
  | _, _ => none

/-- A note reaches the store.  If the store does not take it, it is lost. -/
def deliver? (m : Machine) (k : Nat) : Option Machine :=
  match m.service.writeBacks[k]? with
  | none => none
  | some note =>
    let m := m.mapService fun s => { s with writeBacks := s.writeBacks.eraseIdx k }
    some <| match m.sources.store.touch note.clientId note.usedAt with
      | .ok store => m.mapStore fun _ => store
      | .error _ => m

/-- The oldest note reaches the store. -/
def carryOut? (m : Machine) : Option Machine := m.deliver? 0

end Machine

end DelegatedScopes
