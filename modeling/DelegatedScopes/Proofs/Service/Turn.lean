import DelegatedScopes.Proofs.Service.Queue
import DelegatedScopes.Proofs.Service.Step

/-!
# The service — turns of tasks

The move of a task changes that task, and may start others.  The task keeps its duty, and it keeps
to the two locks: at most one call sets the service up at a time, and at most one rebuild reads.

* `Machine.Turn`, `Machine.Move.turn`: what a move does to the tasks and to the queues.
* `Machine.kept_of_next?`, `Machine.origin_of_next?`: what becomes of the other tasks.
* `Machine.Reachable.locked`: both locks guard, whatever has happened.
* `Machine.Reachable.fitting`: what a rebuild has read fits what it was asked for.
-/

namespace DelegatedScopes

variable {tasks more : List Task} {i j : Nat} {t t' u : Task}

/-! ### Who is inside, and who works -/

/-- Whether a task has asked for the setup lock, or holds it. -/
def Task.inSetup (t : Task) : Bool :=
  match t.duty, t.phase with
  | .setup _, .atSetupLock | .setup _, .rebuilding _ _ => true
  | _, _ => false

/-- Whether a task sets the service up. -/
def Task.isSettingUp (t : Task) : Bool :=
  match t.duty, t.phase with
  | .setup _, .rebuilding _ _ => true
  | _, _ => false

/-- Whether a task has asked for the rebuild lock, or holds it. -/
def Task.inRebuild (t : Task) : Bool := t.phase matches .rebuilding _ _

/-- Whether a task rebuilds, and has its turn. -/
def Task.isReading (t : Task) : Bool :=
  match t.phase with
  | .rebuilding _ .queued => false
  | .rebuilding _ _ => true
  | _ => false

theorem Task.inSetup_of_isSettingUp (t : Task) (h : t.isSettingUp = true) : t.inSetup = true := by
  obtain ⟨duty, phase⟩ := t
  cases duty <;> cases phase <;> first | rfl | cases h

theorem Task.inRebuild_of_isReading (t : Task) (h : t.isReading = true) : t.inRebuild = true := by
  obtain ⟨duty, phase⟩ := t
  cases phase <;> first | rfl | cases h

/-- Whether a task is a call of somebody, and not started by the service itself. -/
def Duty.isCall : Duty → Bool
  | .setup _ | .rebuildNow => true
  | .work | .listen _ => false

/-- Where a task goes on when its rebuild is over. -/
def Duty.after (result : Except ResolutionError Unit) : Duty → Phase
  | .work => .draining
  | _ => .ended result

/-- What is started when a rebuild is over: the first load starts the worker and a listener. -/
def Duty.spawned (result : Except ResolutionError Unit) : Duty → List Task
  | .setup channel =>
    match result with
    | .ok () => ⟨.work, .fresh⟩ :: channel.toList.map fun c => ⟨.listen c, .fresh⟩
    | .error _ => []
  | .rebuildNow | .work | .listen _ => []

/-- The stage that a rebuild has come to when its roles are read, or were not asked for. -/
def Reload.afterRoles (reload : Reload) (resolver : Option Resolver) : Stage :=
  if reload.clients then .listingClients resolver else .loaded resolver none

/-- The stage at which a rebuild starts to read. -/
def Reload.firstStage (reload : Reload) : Stage :=
  if reload.roles then .listingRoles else reload.afterRoles none

namespace Stage

/-- A stage fits what the rebuild was asked for. -/
def Fits (reload : Reload) : Stage → Prop
  | .queued => True
  | .listingRoles => reload.roles = true
  | .listingClients resolver => resolver.isSome = reload.roles ∧ reload.clients = true
  | .loaded resolver clients => resolver.isSome = reload.roles ∧ clients.isSome = reload.clients

theorem fits_afterRoles (reload : Reload) {resolver : Option Resolver}
    (h : resolver.isSome = reload.roles) : (reload.afterRoles resolver).Fits reload := by
  rw [Reload.afterRoles]
  split
  · rename_i hc
    exact ⟨h, hc⟩
  · rename_i hc
    exact ⟨h, (Bool.eq_false_iff.2 hc).symm⟩

/-- A rebuild that has just begun has read nothing, and this fits. -/
theorem fits_firstStage (reload : Reload) : reload.firstStage.Fits reload := by
  rw [Reload.firstStage]
  split
  · assumption
  · rename_i hr
    exact fits_afterRoles reload (Bool.eq_false_iff.2 hr).symm

end Stage

/-- What a task has read fits what it was asked for, and a setup is asked for everything. -/
def Task.Fits (t : Task) : Prop :=
  match t.phase with
  | .rebuilding reload stage =>
    stage.Fits reload ∧ ∀ channel, t.duty = .setup channel → reload = .everything
  | _ => True

theorem Duty.fits_after (duty : Duty) (result : Except ResolutionError Unit) :
    Task.Fits ⟨duty, duty.after result⟩ := by
  cases duty <;> trivial

namespace Machine

variable {m m' : Machine} {duty : Duty} {phase : Phase} {reload : Reload}

theorem tasks_setPhase (h : m.tasks[i]? = some t) (phase : Phase) :
    (m.setPhase i phase).tasks = m.tasks.set i ⟨t.duty, phase⟩ := by
  refine List.ext_getElem? fun k => ?_
  rw [setPhase, List.getElem?_modify, List.getElem?_set]
  split
  · rename_i hk
    subst hk
    rw [if_pos (List.getElem?_eq_some_iff.1 h).1, h]
    rfl
  · simp

theorem getElem?_setPhase (h : m.tasks[i]? = some t) (phase : Phase) :
    (m.setPhase i phase).tasks[i]? = some ⟨t.duty, phase⟩ := by
  rw [tasks_setPhase h, List.getElem?_set_self (List.getElem?_eq_some_iff.1 h).1]

@[simp] theorem tasks_discard (m : Machine) (channel : Option Nat) :
    (m.discard channel).tasks = m.tasks := by
  cases channel <;> rfl

theorem tasks_launch (m : Machine) (channel : Option Nat) :
    (m.launch channel).tasks = m.tasks ++ (Duty.setup channel).spawned (.ok ()) := by
  cases channel with
  | none => rfl
  | some c => exact List.append_assoc m.tasks [⟨.work, .fresh⟩] [⟨.listen c, .fresh⟩]

theorem tasks_resume (h : m.tasks[i]? = some ⟨duty, phase⟩)
    (result : Except ResolutionError Unit) :
    (m.resume i result duty).tasks =
      m.tasks.set i ⟨duty, duty.after result⟩ ++ duty.spawned result := by
  have hlt : i < m.tasks.length := (List.getElem?_eq_some_iff.1 h).1
  cases duty with
  | setup channel =>
      cases result with
      | error e =>
          have hd : (m.discard channel).tasks[i]? = some ⟨.setup channel, phase⟩ := by
            rw [tasks_discard, h]
          refine (tasks_setPhase hd _).trans ?_
          rw [tasks_discard, Duty.spawned, List.append_nil]
          rfl
      | ok u =>
          have hl : (m.launch channel).tasks[i]? = some ⟨.setup channel, phase⟩ := by
            rw [tasks_launch, List.getElem?_append_left hlt, h]
          refine (tasks_setPhase hl _).trans ?_
          rw [tasks_launch, List.set_append_left _ _ hlt]
          rfl
  | _ => rw [Duty.spawned, List.append_nil]; exact tasks_setPhase h _

/-- Whoever leaves a rebuild goes on as the outcome tells, and others may be spawned. -/
theorem tasks_leaveRebuild (h : m.tasks[i]? = some ⟨duty, phase⟩)
    (result : Except ResolutionError Unit) :
    (m.leaveRebuild i duty result).tasks =
      m.tasks.set i ⟨duty, duty.after result⟩ ++ duty.spawned result :=
  tasks_resume (m := { m with rebuildQueue := m.rebuildQueue.tail }) h result

theorem rebuildQueue_leaveRebuild (m : Machine) (i : Nat) (duty : Duty)
    (result : Except ResolutionError Unit) :
    (m.leaveRebuild i duty result).rebuildQueue = m.rebuildQueue.tail := by
  cases duty with
  | setup channel => cases result <;> cases channel <;> rfl
  | _ => rfl

/-- Only a setup gives its lock back with the end of its rebuild. -/
theorem setupQueue_leaveRebuild (m : Machine) (i : Nat) (duty : Duty)
    (result : Except ResolutionError Unit) :
    (m.leaveRebuild i duty result).setupQueue =
      if duty matches .setup _ then m.setupQueue.tail else m.setupQueue := by
  cases duty with
  | setup channel => cases result <;> cases channel <;> rfl
  | _ => rfl

/-! ### Turns -/

/-- What the move of a task does to the tasks and to the queues of the two locks.  A setup goes
ahead only as long as no other was done. -/
structure Turn (m : Machine) (i : Nat) (t t' : Task) (more : List Task) (m' : Machine) : Prop where
  before : m.tasks[i]? = some t
  duty : t'.duty = t.duty
  tasks : m'.tasks = m.tasks.set i t' ++ more
  fresh : ∀ u ∈ more, u.phase = .fresh
  fits : t.Fits → t'.Fits
  first : t'.isSettingUp = true → t.isSettingUp = true ∨ m.service.started = false
  setup : Passes Task.inSetup Task.isSettingUp i t t' m.setupQueue m'.setupQueue
  rebuild : Passes Task.inRebuild Task.isReading i t t' m.rebuildQueue m'.rebuildQueue

/-- A task goes on by itself, and leaves both locks alone. -/
theorem turn_setPhase (h : m.tasks[i]? = some t) (phase : Phase)
    (hsetup : Task.inSetup ⟨t.duty, phase⟩ = t.inSetup)
    (hup : Task.isSettingUp ⟨t.duty, phase⟩ = true → t.isSettingUp = true)
    (hrebuild : Task.inRebuild ⟨t.duty, phase⟩ = t.inRebuild)
    (hread : Task.isReading ⟨t.duty, phase⟩ = true → t.isReading = true)
    (hfits : Task.Fits ⟨t.duty, phase⟩) :
    Turn m i t ⟨t.duty, phase⟩ [] (m.setPhase i phase) where
  before := h
  duty := rfl
  tasks := by rw [tasks_setPhase h, List.append_nil]
  fresh := List.forall_mem_nil _
  fits _ := hfits
  first h' := Or.inl (hup h')
  setup := .same hsetup hup
  rebuild := .same hrebuild hread

/-- A task asks for the rebuild lock. -/
theorem turn_queueRebuild (h : m.tasks[i]? = some t) (reload : Reload)
    (hout : t.inRebuild = false)
    (hsetup : Passes Task.inSetup Task.isSettingUp i t ⟨t.duty, .rebuilding reload .queued⟩
      m.setupQueue m.setupQueue)
    (hall : ∀ channel, t.duty = .setup channel →
      reload = .everything ∧ m.service.started = false) :
    Turn m i t ⟨t.duty, .rebuilding reload .queued⟩ [] (m.queueRebuild i reload) where
  before := h
  duty := rfl
  tasks := by rw [List.append_nil]; exact tasks_setPhase h _
  fresh := List.forall_mem_nil _
  fits _ := ⟨trivial, fun channel hd => (hall channel hd).1⟩
  first h' := by
    obtain ⟨duty, phase⟩ := t
    cases duty with
    | setup channel => exact Or.inr (hall channel rfl).2
    | _ => cases h'
  setup := hsetup
  rebuild :=
    { queue_eq := by rw [hout]; rfl
      leaves := fun h' => by rw [hout] at h'; cases h'
      works := fun h' => by cases h' }

/-- A rebuild goes on from one stage to the next, once it has its turn. -/
theorem turn_stage {stage stage' : Stage} (h : m.tasks[i]? = some ⟨duty, .rebuilding reload stage⟩)
    (hturn : Task.isReading ⟨duty, .rebuilding reload stage⟩ = true ∨ m.rebuildQueue.head? = some i)
    (htasks : m'.tasks = m.tasks.set i ⟨duty, .rebuilding reload stage'⟩)
    (hsetup : m'.setupQueue = m.setupQueue) (hrebuild : m'.rebuildQueue = m.rebuildQueue)
    (hfits : stage.Fits reload → stage'.Fits reload) :
    Turn m i ⟨duty, .rebuilding reload stage⟩ ⟨duty, .rebuilding reload stage'⟩ [] m' where
  before := h
  duty := rfl
  tasks := by rw [htasks, List.append_nil]
  fresh := List.forall_mem_nil _
  fits h' := ⟨hfits h'.1, h'.2⟩
  first h' := Or.inl (by cases duty <;> exact h')
  setup := hsetup ▸ .same (by cases duty <;> rfl) (by cases duty <;> exact id)
  rebuild :=
    { queue_eq := hrebuild
      leaves := fun _ h' => by cases h'
      works := fun _ => hturn.imp_right fun hh => ⟨rfl, hh⟩ }

/-- The end of a rebuild: its task leaves the lock, and a setup leaves both. -/
theorem turn_leaveRebuild {stage : Stage} (h : m.tasks[i]? = some ⟨duty, .rebuilding reload stage⟩)
    (hread : Task.isReading ⟨duty, .rebuilding reload stage⟩ = true)
    (result : Except ResolutionError Unit) :
    Turn m i ⟨duty, .rebuilding reload stage⟩ ⟨duty, duty.after result⟩ (duty.spawned result)
      (m.leaveRebuild i duty result) where
  before := h
  duty := rfl
  tasks := tasks_leaveRebuild h result
  fresh u hu := by
    cases duty with
    | setup channel =>
        cases result with
        | error e => cases hu
        | ok _ =>
            rcases List.mem_cons.1 hu with rfl | hu
            · rfl
            · obtain ⟨c, -, rfl⟩ := List.mem_map.1 hu
              rfl
    | _ => cases hu
  fits _ := duty.fits_after result
  first h' := by cases duty <;> cases h'
  setup :=
    { queue_eq := by rw [setupQueue_leaveRebuild]; cases duty <;> rfl
      leaves := fun hin _ => Or.inl <| by cases duty <;> first | rfl | cases hin
      works := fun hup => by cases duty <;> cases hup }
  rebuild :=
    { queue_eq := by rw [rebuildQueue_leaveRebuild]; cases duty <;> rfl
      leaves := fun _ _ => Or.inl hread
      works := fun hup => by cases duty <;> cases hup }

theorem tasks_enterRebuild (h : m.tasks[i]? = some t) (reload : Reload) :
    (m.enterRebuild i reload).tasks =
      m.tasks.set i ⟨t.duty, .rebuilding reload reload.firstStage⟩ := by
  rw [enterRebuild, Reload.firstStage]
  split <;> exact tasks_setPhase h _

theorem queues_enterRebuild (m : Machine) (i : Nat) (reload : Reload) :
    (m.enterRebuild i reload).setupQueue = m.setupQueue ∧
      (m.enterRebuild i reload).rebuildQueue = m.rebuildQueue := by
  rw [enterRebuild]
  split <;> exact ⟨rfl, rfl⟩

/-- Only a rebuild that reads is refused. -/
theorem Refusal.isReading {maxSteps : Nat} {event : Event} {stage : Stage} {e : ResolutionError}
    (h : Refusal maxSteps i event stage e) (duty : Duty) (reload : Reload) :
    Task.isReading ⟨duty, .rebuilding reload stage⟩ = true := by
  cases h <;> rfl

theorem Turn.of_mapService {f : Service → Service} (h : (m.mapService f).Turn i t t' more m')
    (hf : (f m.service).started = m.service.started) : m.Turn i t t' more m' :=
  ⟨h.before, h.duty, h.tasks, h.fresh, h.fits, fun h' => hf ▸ h.first h', h.setup, h.rebuild⟩

/-- A setup asks for the setup lock. -/
theorem turn_queueSetup {channel : Option Nat} (h : m.tasks[i]? = some ⟨.setup channel, .fresh⟩) :
    Turn m i ⟨.setup channel, .fresh⟩ ⟨.setup channel, .atSetupLock⟩ [] (m.queueSetup i) where
  before := h
  duty := rfl
  tasks := by rw [List.append_nil]; exact tasks_setPhase h _
  fresh := List.forall_mem_nil _
  fits _ := trivial
  first := nofun
  setup := ⟨rfl, nofun, nofun⟩
  rebuild := .same rfl nofun

/-- A setup that comes too late lets go of the setup lock. -/
theorem turn_skipSetup {channel : Option Nat}
    (h : m.tasks[i]? = some ⟨.setup channel, .atSetupLock⟩) (hi : m.setupQueue.head? = some i) :
    Turn m i ⟨.setup channel, .atSetupLock⟩ ⟨.setup channel, .ended (.ok ())⟩ []
      ((m.discard channel).leaveSetup i (.ok ())) where
  before := h
  duty := rfl
  tasks := by
    rw [List.append_nil, ← tasks_discard m channel]
    exact tasks_setPhase ((tasks_discard m channel).symm ▸ h) _
  fresh := List.forall_mem_nil _
  fits _ := trivial
  first := nofun
  setup := ⟨by cases channel <;> rfl, fun _ _ => Or.inr hi, nofun⟩
  rebuild := by
    have hsame : ((m.discard channel).leaveSetup i (.ok ())).rebuildQueue = m.rebuildQueue := by
      cases channel <;> rfl
    exact hsame ▸ .same rfl nofun

/-- The first load is done: a setup publishes what it has read, and starts the worker. -/
def Launches (m : Machine) (i : Nat) (channel : Option Nat) (m' : Machine) : Prop :=
  ∃ reload resolver clients,
    m.tasks[i]? = some ⟨.setup channel, .rebuilding reload (.loaded resolver clients)⟩ ∧
    m' = (m.mapService (·.publish resolver clients)).leaveRebuild i (.setup channel) (.ok ())

theorem started_publish (s : Service) (resolver : Option Resolver)
    (clients : Option (List Client)) : (s.publish resolver clients).started = s.started := by
  cases resolver <;> cases clients <;> rfl

/-- **Every move of a task keeps to the two locks**, and only the first load starts others. -/
theorem Move.turn {e : Event} (h : Move m i e m') :
    ∃ t t' more, Turn m i t t' more m' ∧
      (more = [] ∨ ∃ channel, m.Launches i channel m' ∧
        more = (Duty.setup channel).spawned (.ok ())) := by
  cases h with
  | askSetup h => exact ⟨_, _, _, turn_queueSetup h, Or.inl rfl⟩
  | askRebuild h => exact ⟨_, _, _, turn_queueRebuild h _ rfl (.same rfl nofun) nofun, Or.inl rfl⟩
  | notReady h | parkWorker h | parkListener h | endListening h | park h =>
      exact ⟨_, _, _, turn_setPhase h _ rfl nofun rfl nofun trivial, Or.inl rfl⟩
  | skipSetup h hi => exact ⟨_, _, _, turn_skipSetup h hi, Or.inl rfl⟩
  | enterSetup h hi hs =>
      exact ⟨_, _, _, turn_queueRebuild h _ rfl ⟨rfl, nofun, fun _ => Or.inr ⟨rfl, hi⟩⟩
        (fun _ _ => ⟨rfl, hs⟩), Or.inl rfl⟩
  | @enterRebuild _ reload h hi =>
      obtain ⟨hsetup, hrebuild⟩ := m.queues_enterRebuild i reload
      exact ⟨_, _, _, turn_stage h (Or.inr hi) (tasks_enterRebuild h _) hsetup hrebuild
        (fun _ => Stage.fits_firstStage reload), Or.inl rfl⟩
  | @refused duty _ _ _ e h why =>
      refine ⟨_, _, _, (turn_leaveRebuild (m := m.mapService Service.giveUp) h
        (why.isReading _ _) (.error e)).of_mapService rfl, Or.inl ?_⟩
      cases duty <;> rfl
  | @rolesRead _ reload _ _ h =>
      exact ⟨_, _, _, turn_stage h (Or.inl rfl) (tasks_setPhase h _) rfl rfl
        (fun hf => Stage.fits_afterRoles reload hf.symm), Or.inl rfl⟩
  | clientsRead h =>
      exact ⟨_, _, _, turn_stage h (Or.inl rfl) (tasks_setPhase h _) rfl rfl
        (fun hf => ⟨hf.1, hf.2.symm⟩), Or.inl rfl⟩
  | @publish duty reload resolver clients h =>
      refine ⟨_, _, _, (turn_leaveRebuild (m := m.mapService (·.publish resolver clients)) h rfl
        (.ok ())).of_mapService (started_publish _ _ _), ?_⟩
      cases duty with
      | setup channel => exact Or.inr ⟨channel, ⟨reload, resolver, clients, h, rfl⟩, rfl⟩
      | _ => exact Or.inl rfl
  | wake h =>
      exact ⟨_, _, _, (turn_setPhase (m := m.mapService _) h .draining rfl nofun rfl nofun
        trivial).of_mapService rfl, Or.inl rfl⟩
  | drain h =>
      exact ⟨_, _, _, (turn_queueRebuild (m := m.mapService _) h _ rfl (.same rfl nofun)
        nofun).of_mapService rfl, Or.inl rfl⟩
  | hear h =>
      refine ⟨_, _, [], ⟨h, rfl, ?_, List.forall_mem_nil _, id, nofun, .same rfl id, .same rfl id⟩,
        Or.inl rfl⟩
      obtain ⟨hlt, hget⟩ := List.getElem?_eq_some_iff.1 h
      rw [List.append_nil, ← hget, List.set_getElem_self]
      rfl

/-! ### What becomes of a task -/

/-- An event that moves no task: it may start a call, and leaves the queues alone.  A setup gets a
channel from whoever subscribed. -/
structure Unmoved (m : Machine) (more : List Task) (m' : Machine) : Prop where
  tasks : m'.tasks = m.tasks ++ more
  one : more.length ≤ 1
  fresh : ∀ u ∈ more, u.phase = .fresh ∧ u.duty.isCall = true
  free : ∀ u ∈ more, ∀ c, u.duty = .setup (some c) → m.isFree c = true
  setupQueue : m'.setupQueue = m.setupQueue
  rebuildQueue : m'.rebuildQueue = m.rebuildQueue

theorem Unmoved.mapService (m : Machine) (f : Service → Service) :
    m.Unmoved [] (m.mapService f) :=
  ⟨m.tasks.append_nil.symm, Nat.zero_le _, List.forall_mem_nil _, List.forall_mem_nil _, rfl, rfl⟩

theorem Unmoved.mapStore (m : Machine) (f : Store → Store) : m.Unmoved [] (m.mapStore f) :=
  ⟨m.tasks.append_nil.symm, Nat.zero_le _, List.forall_mem_nil _, List.forall_mem_nil _, rfl, rfl⟩

theorem Unmoved.start {duty : Duty} (h : duty.isCall = true)
    (hfree : ∀ c, duty = .setup (some c) → m.isFree c = true) :
    m.Unmoved [⟨duty, .fresh⟩] (m.start duty) where
  tasks := rfl
  one := Nat.le_refl 1
  fresh u hu := by
    rw [List.mem_singleton.1 hu]
    exact ⟨rfl, h⟩
  free u hu := by
    rw [List.mem_singleton.1 hu]
    exact hfree
  setupQueue := rfl
  rebuildQueue := rfl

/-- A note that is delivered moves no task. -/
theorem unmoved_deliver {k : Nat} (h : m.deliver? k = some m') : m.Unmoved [] m' := by
  rw [deliver?] at h
  split at h
  · cases h
  · obtain rfl := Option.some.inj h
    split <;>
      exact ⟨m.tasks.append_nil.symm, Nat.zero_le _, List.forall_mem_nil _, List.forall_mem_nil _,
        rfl, rfl⟩

/-- **An event moves a task, or moves none.** -/
theorem turn_of_next? {e : Event} (h : m.next? e = some m') :
    (∃ i t t' more, e.mover? = some i ∧ Turn m i t t' more m' ∧
      (more = [] ∨ ∃ channel, m.Launches i channel m' ∧
        more = (Duty.setup channel).spawned (.ok ()))) ∨
      e.mover? = none ∧ ∃ more, Unmoved m more m' := by
  cases step_of_next? h with
  | move h =>
      obtain ⟨t, t', more, hturn, hmore⟩ := h.turn
      exact Or.inl ⟨_, t, t', more, h.mover?, hturn, hmore⟩
  | setup hfree =>
      exact Or.inr ⟨rfl, _, .start rfl fun c hc => hfree c (by cases hc; rfl)⟩
  | rebuildNow => exact Or.inr ⟨rfl, _, .start rfl nofun⟩
  | request | ask => exact Or.inr ⟨rfl, _, .mapService m _⟩
  | edit | subscribe | receive | close => exact Or.inr ⟨rfl, _, .mapStore m _⟩
  | deliver h => exact Or.inr ⟨rfl, _, unmoved_deliver h⟩
  | rewire =>
      exact Or.inr ⟨rfl, [], m.tasks.append_nil.symm, Nat.zero_le _, List.forall_mem_nil _,
        List.forall_mem_nil _, rfl, rfl⟩

namespace Turn

variable (h : Turn m i t t' more m')

include h

theorem after : m'.tasks[i]? = some t' := by
  have hlt : i < m.tasks.length := (List.getElem?_eq_some_iff.1 h.before).1
  rw [h.tasks, List.getElem?_append_left (by simpa using hlt), List.getElem?_set_self hlt]

/-- A turn leaves the other tasks as they were. -/
theorem kept (hj : j ≠ i) (hu : m.tasks[j]? = some u) : m'.tasks[j]? = some u := by
  have hlt : j < m.tasks.length := (List.getElem?_eq_some_iff.1 hu).1
  rw [h.tasks, List.getElem?_append_left (by simpa using hlt), List.getElem?_set_ne hj.symm, hu]

/-- Every other task was there before, or is new. -/
theorem origin (hj : j ≠ i) (hu : m'.tasks[j]? = some u) : m.tasks[j]? = some u ∨ u ∈ more := by
  rw [h.tasks, List.getElem?_append] at hu
  split at hu
  · rw [List.getElem?_set_ne hj.symm] at hu
    exact Or.inl hu
  · exact Or.inr (List.mem_of_getElem? hu)

end Turn

/-- Whoever is not moved stays as it is. -/
theorem kept_of_next? {e : Event} (h : m.next? e = some m') (hj : e.mover? ≠ some j)
    (hu : m.tasks[j]? = some u) : m'.tasks[j]? = some u := by
  rcases turn_of_next? h with ⟨i, t, t', more, hi, hturn, -⟩ | ⟨-, more, hun⟩
  · have hji : j ≠ i := fun hji => hj (hji ▸ hi)
    exact hturn.kept hji hu
  · rw [hun.tasks, List.getElem?_append_left (List.getElem?_eq_some_iff.1 hu).1, hu]

/-- No task goes away, and each keeps its duty. -/
theorem duty_of_next? {e : Event} (h : m.next? e = some m') (hj : m.tasks[j]? = some t) :
    ∃ u, m'.tasks[j]? = some u ∧ u.duty = t.duty := by
  rcases turn_of_next? h with ⟨i, t₀, t', more, hi, hturn, -⟩ | ⟨hi, -⟩
  · by_cases hji : j = i
    · subst hji
      obtain rfl := Option.some.inj (hj.symm.trans hturn.before)
      exact ⟨t', hturn.after, hturn.duty⟩
    · exact ⟨t, hturn.kept hji hj, rfl⟩
  · exact ⟨t, kept_of_next? h (by rw [hi]; exact nofun) hj, rfl⟩

/-- Whoever was not moved was there before, or has just been started. -/
theorem origin_of_next? {e : Event} (h : m.next? e = some m') (hj : e.mover? ≠ some j)
    (hu : m'.tasks[j]? = some u) : m.tasks[j]? = some u ∨ u.phase = .fresh := by
  rcases turn_of_next? h with ⟨i, t, t', more, hi, hturn, -⟩ | ⟨-, more, hun⟩
  · have hji : j ≠ i := fun hji => hj (hji ▸ hi)
    exact (hturn.origin hji hu).imp_right (hturn.fresh u)
  · rw [hun.tasks, List.getElem?_append] at hu
    split at hu
    · exact Or.inl hu
    · exact Or.inr (hun.fresh u (List.mem_of_getElem? hu)).1

/-- A task that has ended stays as it is. -/
theorem Move.not_ended {e : Event} {result : Except ResolutionError Unit} (h : Move m i e m') :
    m.tasks[i]? ≠ some ⟨duty, .ended result⟩ := by
  intro ht
  cases h with
  | _ h => cases h.symm.trans ht

/-- A task that has ended stays as it ended. -/
theorem ended_of_next? {e : Event} {result : Except ResolutionError Unit} (h : m.next? e = some m')
    (ht : m.tasks[j]? = some ⟨duty, .ended result⟩) :
    m'.tasks[j]? = some ⟨duty, .ended result⟩ :=
  kept_of_next? h (fun hj => (move_of_mover? h hj).not_ended ht) ht

/-- A setup was called before, or has just been called with a channel of whoever subscribed. -/
theorem setup_of_next? {e : Event} {channel : Option Nat} (h : m.next? e = some m')
    (hu : m'.tasks[j]? = some u) (hd : u.duty = .setup channel) :
    (∃ t, m.tasks[j]? = some t ∧ t.duty = .setup channel) ∨
      j = m.tasks.length ∧ u.phase = .fresh ∧ ∀ c, channel = some c → m.isFree c = true := by
  rcases turn_of_next? h with ⟨i, t, t', more, -, hturn, hmore⟩ | ⟨-, more, hun⟩
  · by_cases hj : j = i
    · subst hj
      obtain rfl := Option.some.inj (hturn.after.symm.trans hu)
      exact Or.inl ⟨t, hturn.before, hturn.duty.symm.trans hd⟩
    · rcases hturn.origin hj hu with hu | hu
      · exact Or.inl ⟨u, hu, hd⟩
      · rcases hmore with rfl | ⟨_, -, rfl⟩
        · cases hu
        · rcases List.mem_cons.1 hu with rfl | hu
          · cases hd
          · obtain ⟨c, -, rfl⟩ := List.mem_map.1 hu
            cases hd
  · rw [hun.tasks, List.getElem?_append] at hu
    split at hu
    · exact Or.inl ⟨u, hu, hd⟩
    · rename_i hlt
      obtain ⟨hlen, -⟩ := List.getElem?_eq_some_iff.1 hu
      have hone := hun.one
      have hmem := List.mem_of_getElem? hu
      refine Or.inr ⟨by omega, (hun.fresh u hmem).1, fun c hc => hun.free u hmem c ?_⟩
      rw [hd, hc]

/-! ### The locks hold -/

/-- Both locks guard. -/
structure Locked (m : Machine) : Prop where
  setup : Guards Task.inSetup Task.isSettingUp m.setupQueue m.tasks
  rebuild : Guards Task.inRebuild Task.isReading m.rebuildQueue m.tasks

theorem locked_new (config : Config) (store : Store) : (new config store).Locked where
  setup := ⟨List.nodup_nil, by simp [new], nofun⟩
  rebuild := ⟨List.nodup_nil, by simp [new], nofun⟩

/-- A task that has made no move is inside no lock. -/
theorem outside_of_fresh (h : t.phase = .fresh) : t.inSetup = false ∧ t.inRebuild = false := by
  obtain ⟨duty, phase⟩ := t
  obtain rfl : phase = .fresh := h
  cases duty <;> exact ⟨rfl, rfl⟩

/-- **Every event keeps to the locks.** -/
theorem Locked.next {e : Event} (h : m.Locked) (he : m.next? e = some m') : m'.Locked := by
  rcases turn_of_next? he with ⟨i, t, t', more, -, hturn, -⟩ | ⟨-, more, hun⟩
  · have hout := fun u hu => outside_of_fresh (hturn.fresh u hu)
    constructor <;> rw [hturn.tasks]
    · exact (h.setup.pass Task.inSetup_of_isSettingUp hturn.before hturn.setup).append
        Task.inSetup_of_isSettingUp fun u hu => (hout u hu).1
    · exact (h.rebuild.pass Task.inRebuild_of_isReading hturn.before hturn.rebuild).append
        Task.inRebuild_of_isReading fun u hu => (hout u hu).2
  · have hout := fun u hu => outside_of_fresh (hun.fresh u hu).1
    constructor
    · rw [hun.tasks, hun.setupQueue]
      exact h.setup.append Task.inSetup_of_isSettingUp fun u hu => (hout u hu).1
    · rw [hun.tasks, hun.rebuildQueue]
      exact h.rebuild.append Task.inRebuild_of_isReading fun u hu => (hout u hu).2

/-- **Whatever has happened, both locks guard.** -/
theorem Reachable.locked {config : Config} (h : Reachable config m) : m.Locked :=
  Reachable.keeps (fun he ha => ha.next he) (locked_new config) h

/-! ### Every rebuild reads what it was asked for -/

/-- What every task has read fits what it was asked for. -/
def Fitting (m : Machine) : Prop := ∀ t ∈ m.tasks, t.Fits

theorem fits_of_fresh (h : t.phase = .fresh) : t.Fits := by
  rw [Task.Fits, h]
  trivial

/-- A step leaves fitting what every task has read. -/
theorem Fitting.next {e : Event} (h : m.Fitting) (he : m.next? e = some m') : m'.Fitting := by
  intro u hu
  rcases turn_of_next? he with ⟨i, t, t', more, -, hturn, -⟩ | ⟨-, more, hun⟩
  · rw [hturn.tasks] at hu
    rcases List.mem_append.1 hu with hu | hu
    · rcases List.mem_or_eq_of_mem_set hu with hu | rfl
      · exact h u hu
      · exact hturn.fits (h t (List.mem_of_getElem? hturn.before))
    · exact fits_of_fresh (hturn.fresh u hu)
  · rw [hun.tasks] at hu
    rcases List.mem_append.1 hu with hu | hu
    · exact h u hu
    · exact fits_of_fresh (hun.fresh u hu).1

/-- **Whatever has happened**, every task has read what it was asked for. -/
theorem Reachable.fitting {config : Config} (h : Reachable config m) : m.Fitting :=
  Reachable.keeps (fun he ha => ha.next he) (fun _ => List.forall_mem_nil _) h

end Machine
end DelegatedScopes
