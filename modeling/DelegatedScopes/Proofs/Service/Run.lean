import DelegatedScopes.Service.Schedule

/-!
# The service — runs

Everything that can happen around a service, in any order.  Tasks move, and a task that lists roles
or clients goes on when it gets an answer, whatever the answer is.  Calls and queries come in,
rebuilds are asked for, the store changes, notes reach it, and the connection to it comes and goes.

The receiving end of a channel is with one owner at a time.  Whoever subscribed has it first, and
can receive from it, give it up or hand it to a call that sets the service up.

* `Event`, `Machine.next?`: what can happen, and the machine after it.
* `Machine.Run`: events one after the other, each under a condition.
* `Machine.Reachable`: what a new service can come to.
* `Machine.exists_run_settle`: the schedule of `Machine.settle` is one of the runs.
-/

namespace DelegatedScopes

/-- A question put to a service. -/
inductive Query
  | resolve (scopes : List Text)
  | loadRole (id : Text)
  | loadClient (id : Text) (now : Instant)

/-- The service after a question. -/
def Service.asked (s : Service) : Query → Service
  | .resolve scopes => (s.resolve scopes).2
  | .loadRole _ => s
  | .loadClient id now => (s.loadClient id now).2

/-- A change of the store from outside. -/
inductive Edit
  | putRole (r : Role)
  | deleteRole (id : Text)
  | putClient (c : Client)
  | deleteClient (id : Text)
  | touch (id : Text) (moment : Instant)
  | setUnavailable (value : Bool)

/-- The store after a change. -/
def Store.edited (s : Store) : Edit → Store
  | .putRole r => s.putRole r
  | .deleteRole id => (s.deleteRole id).2
  | .putClient c => s.putClient c
  | .deleteClient id => (s.deleteClient id).2
  | .touch id moment => (s.touch id moment).toOption.getD s
  | .setUnavailable value => { s with unavailable := value }

/-- What can happen: a task moves; a source answers a task that lists; a call, a request for a
rebuild or a question comes in; the store changes, or a note reaches it; somebody subscribes,
receives or gives up a channel; the connection to the sources changes. -/
inductive Event
  | move (i : Nat)
  | answerRoles (i : Nat) (answer : Except ResolutionError (List Role))
  | answerClients (i : Nat) (answer : Except ResolutionError (List Client))
  | setup (channel : Option Nat)
  | rebuildNow
  | request (change : Change)
  | ask (query : Query)
  | edit (change : Edit)
  | deliver (k : Nat)
  | subscribe (capacity : Nat)
  | receive (channel : Nat)
  | close (channel : Nat)
  | rewire (rolesOutage clientsOutage : Option Text) (gateClosed holding : Bool) (passes : Nat)

/-- The task that an event moves. -/
def Event.mover? : Event → Option Nat
  | .move i | .answerRoles i _ | .answerClients i _ => some i
  | _ => none

/-- Whether a task waits for the answer of a source. -/
def Task.isListing (t : Task) : Bool :=
  match t.phase with
  | .rebuilding _ .listingRoles | .rebuilding _ (.listingClients _) => true
  | _ => false

namespace Machine

/-- Whether the receiving end of a channel was handed to a task. -/
def hasTaken (m : Machine) (channel : Nat) : Bool :=
  m.tasks.any fun t => t.duty = .setup (some channel) || t.duty = .listen channel

/-- Whether the receiving end of a channel is still with whoever subscribed. -/
def isFree (m : Machine) (channel : Nat) : Bool :=
  m.sources.store.channels[channel]?.any Channel.isOpen && !m.hasTaken channel

/-- The machine after an event, if the event can happen. -/
def next? (m : Machine) : Event → Option Machine
  | .move i => if m.tasks[i]?.any Task.isListing then none else m.move? i
  | .answerRoles i answer =>
    match m.tasks[i]? with
    | some ⟨duty, .rebuilding reload .listingRoles⟩ => some (m.takeRoles i duty reload answer)
    | _ => none
  | .answerClients i answer =>
    match m.tasks[i]? with
    | some ⟨duty, .rebuilding reload (.listingClients resolver)⟩ =>
      some (m.takeClients i duty reload resolver answer)
    | _ => none
  | .setup channel => if channel.all m.isFree then some (m.start (.setup channel)) else none
  | .rebuildNow => some (m.start .rebuildNow)
  | .request change => some (m.mapService (·.request change))
  | .ask query => some (m.mapService (·.asked query))
  | .edit change => some (m.mapStore (·.edited change))
  | .deliver k => m.deliver? k
  | .subscribe capacity => some (m.mapStore fun s => (s.subscribe capacity).2)
  | .receive channel =>
    if m.isFree channel then
      (m.sources.store.receive? channel).map fun found => m.mapStore fun _ => found.2
    else none
  | .close channel => if m.isFree channel then some (m.mapStore (·.close channel)) else none
  | .rewire rolesOutage clientsOutage gateClosed holding passes =>
    some { m with
      sources := ⟨m.sources.store, rolesOutage, clientsOutage, gateClosed, holding, passes⟩ }

/-! ### Runs -/

/-- A condition on what happens: the machine before, the event, and the machine after. -/
abbrev Condition := Machine → Event → Machine → Prop

/-- No condition. -/
def anything : Condition := fun _ _ _ => True

/-- Events one after the other, each under a condition. -/
inductive Run (P : Condition) (m : Machine) : List Event → Machine → Prop
  | start : Run P m [] m
  | next {events : List Event} {a b : Machine} {e : Event} (h : Run P m events a)
      (he : a.next? e = some b) (hp : P a e b) : Run P m (events ++ [e]) b

namespace Run

variable {P Q : Condition} {m a b : Machine} {events rest : List Event}

theorem mono (hPQ : ∀ a e b, P a e b → Q a e b) (h : Run P m events a) : Run Q m events a := by
  induction h with
  | start => exact .start
  | next _ he hp ih => exact .next ih he (hPQ _ _ _ hp)

theorem trans (h : Run P m events a) (h' : Run P a rest b) : Run P m (events ++ rest) b := by
  induction h' with
  | start => rwa [List.append_nil]
  | next _ he hp ih => exact List.append_assoc .. ▸ .next ih he hp

theorem cons {e : Event} (he : m.next? e = some a) (hp : P m e a) (h : Run P a rest b) :
    Run P m (e :: rest) b :=
  (Run.start.next he hp).trans h

/-- **What every event keeps holds at the end of a run.** -/
theorem keeps {I : Machine → Prop}
    (hkeep : ∀ {a e b}, a.next? e = some b → P a e b → I a → I b)
    (h : Run P m events a) (hm : I m) : I a := by
  induction h with
  | start => exact hm
  | next _ he hp ih => exact hkeep he hp ih

end Run

/-- What a new service can come to, over any store. -/
def Reachable (config : Config) (m : Machine) : Prop :=
  ∃ store events, Run anything (.new config store) events m

/-- Whatever a run leads to can be reached. -/
theorem Reachable.run {config : Config} {P : Condition} {m m' : Machine} {events : List Event}
    (h : Reachable config m) (hrun : Run P m events m') : Reachable config m' := by
  obtain ⟨store, first, hfirst⟩ := h
  exact ⟨store, _, hfirst.trans (hrun.mono fun _ _ _ _ => trivial)⟩

theorem Reachable.next {config : Config} {m m' : Machine} {e : Event} (h : Reachable config m)
    (he : m.next? e = some m') : Reachable config m' :=
  h.run (P := anything) (.next .start he trivial)

/-- What every event keeps holds of whatever a new service comes to. -/
theorem Reachable.keeps {config : Config} {m : Machine} {I : Machine → Prop}
    (hkeep : ∀ {a e b}, a.next? e = some b → I a → I b) (hnew : ∀ store, I (.new config store))
    (h : Reachable config m) : I m := by
  obtain ⟨store, events, hrun⟩ := h
  have hkeep' : ∀ {a e b}, a.next? e = some b → anything a e b → I a → I b :=
    fun he _ ha => hkeep he ha
  exact Run.keeps hkeep' hrun (hnew store)

/-- The machine after some events, if they can happen. -/
def play? (m : Machine) : List Event → Option Machine
  | [] => some m
  | e :: rest => (m.next? e).bind fun m => m.play? rest

/-- Events that can be played are a run. -/
theorem run_of_play? {m m' : Machine} {events : List Event} (h : m.play? events = some m') :
    Run anything m events m' := by
  induction events generalizing m with
  | nil =>
      obtain rfl := Option.some.inj h
      exact .start
  | cons e rest ih =>
      obtain ⟨a, ha, hrest⟩ := Option.bind_eq_some_iff.1 h
      exact .cons ha trivial (ih hrest)

theorem play?_append (m : Machine) (events rest : List Event) :
    m.play? (events ++ rest) = (m.play? events).bind fun m => m.play? rest := by
  induction events generalizing m with
  | nil => rfl
  | cons e events ih => simp only [List.cons_append, play?, Option.bind_assoc, ih]

/-! ### The schedule is a run -/

/-- A move of a task is an event: where it lists, the store itself answers. -/
theorem exists_next?_of_move? {m m' : Machine} {i : Nat} (h : m.move? i = some m') :
    ∃ e, m.next? e = some m' := by
  by_cases hl : m.tasks[i]?.any Task.isListing = true
  · cases ht : m.tasks[i]? with
    | none => simp [ht] at hl
    | some t =>
        obtain ⟨duty, phase⟩ := t
        simp only [ht, Option.any_some, Task.isListing] at hl
        split at hl
        · refine ⟨.answerRoles i m.sources.listRoles, ?_⟩
          simp only [move?, ht, Option.bind_eq_bind, Option.bind_some, advance?,
            Option.ite_none_left_eq_some] at h
          simpa [next?, ht] using h.2
        · refine ⟨.answerClients i m.sources.listClients, ?_⟩
          simpa [next?, ht, move?, advance?] using h
        · cases hl
  · exact ⟨.move i, by simpa [next?, hl] using h⟩

/-- What the schedule lets one task do is a run. -/
theorem exists_run_runTask (i moves : Nat) (m : Machine) :
    ∃ events, Run anything m events (m.runTask i moves) := by
  induction moves generalizing m with
  | zero => exact ⟨[], .start⟩
  | succ moves ih =>
      rw [runTask]
      cases h : m.move? i with
      | none => exact ⟨[], .start⟩
      | some a =>
          obtain ⟨e, he⟩ := exists_next?_of_move? h
          obtain ⟨events, hrun⟩ := ih a
          exact ⟨_, .cons he trivial hrun⟩

theorem exists_run_pass (m : Machine) : ∃ events, Run anything m events m.pass := by
  rw [pass]
  generalize List.range m.tasks.length = tasks
  induction tasks generalizing m with
  | nil => exact ⟨[], .start⟩
  | cons i tasks ih =>
      obtain ⟨first, hfirst⟩ := exists_run_runTask i m.workLeft m
      obtain ⟨rest, hrest⟩ := ih (m.runTask i m.workLeft)
      exact ⟨_, hfirst.trans hrest⟩

theorem exists_run_passes (rounds : Nat) (m : Machine) :
    ∃ events, Run anything m events (m.passes rounds) := by
  induction rounds generalizing m with
  | zero => exact ⟨[], .start⟩
  | succ rounds ih =>
      rw [passes]
      split
      · exact ⟨[], .start⟩
      · obtain ⟨first, hfirst⟩ := exists_run_pass m
        obtain ⟨rest, hrest⟩ := ih m.pass
        exact ⟨_, hfirst.trans hrest⟩

/-- What the schedule does is a run, notes and all. -/
theorem exists_run_carryOut (notes : Nat) (m : Machine) :
    ∃ events, Run anything m events (m.carryOut notes) := by
  induction notes generalizing m with
  | zero => exact ⟨[], .start⟩
  | succ notes ih =>
      rw [carryOut]
      cases h : m.carryOut? with
      | none => exact ⟨[], .start⟩
      | some a =>
          have hnext : m.next? (.deliver 0) = some a := h
          obtain ⟨rest, hrest⟩ := ih a
          exact ⟨_, .cons hnext trivial hrest⟩

/-- **The schedule that settles a machine is one of its runs.** -/
theorem exists_run_settle (m : Machine) : ∃ events, Run anything m events m.settle := by
  obtain ⟨first, hfirst⟩ := exists_run_carryOut m.service.writeBacks.length m
  obtain ⟨rest, hrest⟩ := exists_run_passes _ (m.carryOut m.service.writeBacks.length)
  exact ⟨_, hfirst.trans hrest⟩

end Machine

end DelegatedScopes
