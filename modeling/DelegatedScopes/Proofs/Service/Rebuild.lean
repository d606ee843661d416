import DelegatedScopes.Proofs.Service.Turn
import DelegatedScopes.Proofs.Store.Keyed

/-!
# The service — one rebuild

A rebuild reads what it was asked for, and then replaces it.  While it reads, nobody else replaces
anything, and nothing that it reads shows.

* `Stage.Next`: the stages of a rebuild.
* `Move.rebuild`: a rebuild goes on to the next stage, fails, or publishes.
* `Machine.rebuild_all_or_nothing`: what a rebuild does to the service, from its turn to its end.
-/

namespace DelegatedScopes

/-! ### What a rebuild has read -/

namespace Stage

/-- The resolver that was built from the roles read so far. -/
def resolver? : Stage → Option Resolver
  | .queued | .listingRoles => none
  | .listingClients resolver | .loaded resolver _ => resolver

/-- The clients read so far. -/
def clients? : Stage → Option (List Client)
  | .queued | .listingRoles | .listingClients _ => none
  | .loaded _ clients => clients

/-- The next stage of a rebuild that nothing stops. -/
inductive Next (maxSteps i : Nat) (reload : Reload) : Stage → Event → Stage → Prop
  | enter : Next maxSteps i reload .queued (.move i) reload.firstStage
  | roles {listed : List Role} {resolver : Resolver}
      (h : Resolver.build listed maxSteps = .ok resolver) :
      Next maxSteps i reload .listingRoles (.answerRoles i (.ok listed))
        (reload.afterRoles (some resolver))
  | clients {resolver : Option Resolver} {listed : List Client} :
      Next maxSteps i reload (.listingClients resolver) (.answerClients i (.ok listed))
        (.loaded resolver (some listed))

/-- The next stage of a rebuild is one that reads. -/
theorem Next.not_queued {maxSteps i : Nat} {reload : Reload} {stage stage' : Stage} {e : Event}
    (h : Next maxSteps i reload stage e stage') (duty : Duty) :
    Task.isReading ⟨duty, .rebuilding reload stage'⟩ = true := by
  obtain ⟨roles, clients⟩ := reload
  cases h <;> cases roles <;> cases clients <;> rfl

end Stage

namespace Machine

variable {m m' : Machine} {i j : Nat} {duty : Duty} {reload : Reload} {stage : Stage} {e : Event}

/-- **A rebuild goes on to the next stage, fails, or publishes.** -/
theorem Move.rebuild (h : Move m i e m')
    (ht : m.tasks[i]? = some ⟨duty, .rebuilding reload stage⟩) :
    (∃ stage', stage.Next m.service.config.maxSteps i reload e stage' ∧
      m'.tasks = m.tasks.set i ⟨duty, .rebuilding reload stage'⟩ ∧
      m'.sources.store = m.sources.store ∧ ∃ lifecycle, m'.service = { m.service with lifecycle }) ∨
    (∃ cause, Refusal m.service.config.maxSteps i e stage cause ∧ m' = m.failRebuild i duty cause) ∨
    ∃ resolver clients, stage = .loaded resolver clients ∧ e = .move i ∧
      m' = (m.mapService (·.publish resolver clients)).leaveRebuild i duty (.ok ()) := by
  have htask : ∀ {duty' phase}, m.tasks[i]? = some ⟨duty', phase⟩ →
      duty' = duty ∧ phase = .rebuilding reload stage := by
    intro duty' phase h'
    rw [ht] at h'
    cases h'
    exact ⟨rfl, rfl⟩
  cases h with
  | enterRebuild h' =>
      obtain ⟨rfl, hphase⟩ := htask h'
      cases hphase
      refine Or.inl ⟨_, .enter, tasks_enterRebuild ht _, ?_, ?_⟩
      · rw [Machine.enterRebuild]
        split
        · rw [setPhase, Sources.arrive]
          dsimp only
          split <;> rfl
        · rfl
      · rw [service_enterRebuild, Service.beginRebuild]
        split
        · exact ⟨m.service.lifecycle, rfl⟩
        · exact ⟨_, rfl⟩
  | refused h' why =>
      obtain ⟨rfl, hphase⟩ := htask h'
      cases hphase
      exact Or.inr (Or.inl ⟨_, why, rfl⟩)
  | rolesRead h' hr =>
      obtain ⟨rfl, hphase⟩ := htask h'
      cases hphase
      exact Or.inl ⟨_, .roles hr, tasks_setPhase ht _, rfl, m.service.lifecycle, rfl⟩
  | clientsRead h' =>
      obtain ⟨rfl, hphase⟩ := htask h'
      cases hphase
      exact Or.inl ⟨_, .clients, tasks_setPhase ht _, rfl, m.service.lifecycle, rfl⟩
  | publish h' =>
      obtain ⟨rfl, hphase⟩ := htask h'
      cases hphase
      exact Or.inr (Or.inr ⟨_, _, rfl, rfl, rfl⟩)
  | _ h' => cases (htask h').2

/-- A task rebuilds. -/
def Rebuilds (m : Machine) (i : Nat) (duty : Duty) (reload : Reload) : Prop :=
  ∃ stage, m.tasks[i]? = some ⟨duty, .rebuilding reload stage⟩

/-- Whoever is done with a rebuild is in none. -/
theorem after_ne_rebuilding (duty : Duty) (result : Except ResolutionError Unit) :
    duty.after result ≠ .rebuilding reload stage := by
  cases duty <;> exact nofun

theorem getElem?_leaveRebuild {phase : Phase} (h : m.tasks[i]? = some ⟨duty, phase⟩)
    (result : Except ResolutionError Unit) :
    (m.leaveRebuild i duty result).tasks[i]? = some ⟨duty, duty.after result⟩ := by
  have hlt : i < m.tasks.length := (List.getElem?_eq_some_iff.1 h).1
  rw [tasks_leaveRebuild h, List.getElem?_append_left (by simpa using hlt),
    List.getElem?_set_self hlt]

/-- **A rebuild that goes on has come to its next stage**, and that hardly shows. -/
theorem Move.rebuild_on {duty' : Duty} {reload' : Reload} {stage' : Stage} (h : Move m i e m')
    (ht : m.tasks[i]? = some ⟨duty, .rebuilding reload stage⟩)
    (ht' : m'.tasks[i]? = some ⟨duty', .rebuilding reload' stage'⟩) :
    duty' = duty ∧ reload' = reload ∧ stage.Next m.service.config.maxSteps i reload e stage' ∧
      ∃ lifecycle, m'.service = { m.service with lifecycle } := by
  have hnot : ∀ {m₀ : Machine} (result : Except ResolutionError Unit), m₀.tasks = m.tasks →
      m' ≠ m₀.leaveRebuild i duty result := by
    rintro m₀ result hm₀ rfl
    have hend := getElem?_leaveRebuild (m := m₀) (hm₀ ▸ ht) result
    exact after_ne_rebuilding duty result
      (congrArg Task.phase (Option.some.inj (hend.symm.trans ht')))
  rcases h.rebuild ht with
    ⟨stage'', hnext, htasks, -, hservice⟩ | ⟨cause, -, hm⟩ | ⟨resolver, clients, -, -, hm⟩
  · rw [htasks, List.getElem?_set_self (List.getElem?_eq_some_iff.1 ht).1] at ht'
    cases ht'
    exact ⟨rfl, rfl, hnext, hservice⟩
  · exact absurd hm (hnot (.error cause) rfl)
  · exact absurd hm (hnot (.ok ()) rfl)

/-- The configuration of a service does not change. -/
theorem op_config {s s' : Service} (h : s.Op s') : s'.config = s.config := by
  cases h with
  | asked query => obtain ⟨_, _, _, _, hframe, -⟩ := s.frame_asked query; rw [hframe]
  | request change => cases change <;> rfl
  | beginRebuild => rw [Service.beginRebuild]; split <;> rfl
  | publish resolver clients => cases resolver <;> cases clients <;> rfl
  | _ => rfl

/-- No event changes the configuration. -/
theorem config_of_next? (he : m.next? e = some m') : m'.service.config = m.service.config :=
  op_config (op_of_next? he)

theorem Reachable.config_eq {config : Config} (h : Reachable config m) :
    m.service.config = config :=
  Reachable.keeps (I := fun m => m.service.config = config)
    (fun he ha => (config_of_next? he).trans ha) (fun _ => rfl) h

end Machine

/-! ### Nobody else replaces anything -/

namespace Service

/-- Two services have the same snapshots, and have counted the same rebuilds. -/
structure SameSnapshots (s s' : Service) : Prop where
  resolver : s'.resolver = s.resolver
  table : s'.table = s.table
  counters : s.counters.SameRebuilds s'.counters

theorem SameSnapshots.refl (s : Service) : s.SameSnapshots s := ⟨rfl, rfl, rfl, rfl⟩

theorem SameSnapshots.trans {s s' s'' : Service} (h : s.SameSnapshots s')
    (h' : s'.SameSnapshots s'') : s.SameSnapshots s'' where
  resolver := h'.resolver.trans h.resolver
  table := h'.table.trans h.table
  counters := ⟨h'.counters.1.trans h.counters.1, h'.counters.2.trans h.counters.2⟩

theorem sameSnapshots_beginRebuild (s : Service) : s.SameSnapshots s.beginRebuild := by
  rw [beginRebuild]
  split <;> exact ⟨rfl, rfl, rfl, rfl⟩

end Service

namespace Machine

variable {m m' m₀ : Machine} {i j : Nat} {duty : Duty} {reload : Reload} {stage : Stage}
  {e : Event} {events : List Event}

/-- **Only a rebuild that has its turn replaces a snapshot.** -/
theorem sameSnapshots_of_next? (he : m.next? e = some m')
    (hout : ∀ i t, e.mover? = some i → m.tasks[i]? = some t → t.isReading = false) :
    m.service.SameSnapshots m'.service := by
  cases step_of_next? he with
  | move h =>
      cases h with
      | skipSetup =>
          exact (service_discard m _).symm ▸ Service.SameSnapshots.refl m.service
      | enterRebuild =>
          exact (service_enterRebuild m _ _).symm ▸ m.service.sameSnapshots_beginRebuild
      | refused ht why =>
          have hread := hout _ _ (Move.refused ht why).mover? ht
          rw [why.isReading] at hread
          cases hread
      | publish ht => cases hout _ _ rfl ht
      | @hear _ change _ _ _ => cases change <;> exact ⟨rfl, rfl, rfl, rfl⟩
      | _ => exact ⟨rfl, rfl, rfl, rfl⟩
  | request change => cases change <;> exact ⟨rfl, rfl, rfl, rfl⟩
  | ask query =>
      obtain ⟨counters, expansions, touched, writeBacks, hframe, hsame⟩ :=
        m.service.frame_asked query
      change m.service.SameSnapshots (m.service.asked query)
      rw [hframe]
      exact ⟨rfl, rfl, hsame⟩
  | deliver h =>
      obtain ⟨writeBacks, hm⟩ := service_deliver h
      exact hm ▸ ⟨rfl, rfl, rfl, rfl⟩
  | _ => exact ⟨rfl, rfl, rfl, rfl⟩

/-! ### From its turn to its end -/

/-- A rebuild goes on from one event to the next. -/
def during (i : Nat) (duty : Duty) (reload : Reload) : Condition := fun a _ _ =>
  a.Rebuilds i duty reload

end Machine

/-- What was read at a stage are the answers that the rebuild got. -/
structure Stage.Answered (maxSteps i : Nat) (events : List Event) (stage : Stage) : Prop where
  roles : ∀ r, stage.resolver? = some r → ∃ listed, .answerRoles i (.ok listed) ∈ events ∧
    Resolver.build listed maxSteps = .ok r
  clients : ∀ listed, stage.clients? = some listed → .answerClients i (.ok listed) ∈ events

namespace Stage

variable {maxSteps i : Nat} {reload : Reload} {stage stage' : Stage} {e : Event}
  {events : List Event}

theorem resolver?_afterRoles (reload : Reload) (resolver : Option Resolver) :
    (reload.afterRoles resolver).resolver? = resolver := by
  rw [Reload.afterRoles]
  split <;> rfl

theorem clients?_afterRoles (reload : Reload) (resolver : Option Resolver) :
    (reload.afterRoles resolver).clients? = none := by
  rw [Reload.afterRoles]
  split <;> rfl

theorem resolver?_firstStage (reload : Reload) : reload.firstStage.resolver? = none := by
  rw [Reload.firstStage]
  split
  · rfl
  · exact resolver?_afterRoles reload none

theorem clients?_firstStage (reload : Reload) : reload.firstStage.clients? = none := by
  rw [Reload.firstStage]
  split
  · rfl
  · exact clients?_afterRoles reload none

theorem answered_firstStage (reload : Reload) :
    reload.firstStage.Answered maxSteps i events where
  roles r hr := by rw [resolver?_firstStage] at hr; cases hr
  clients listed hl := by rw [clients?_firstStage] at hl; cases hl

/-- What was answered stays answered when more happens. -/
theorem Answered.mono (h : stage.Answered maxSteps i events) (e : Event) :
    stage.Answered maxSteps i (events ++ [e]) where
  roles r hr := by
    obtain ⟨listed, hmem, hbuild⟩ := h.roles r hr
    exact ⟨listed, List.mem_append_left _ hmem, hbuild⟩
  clients listed hl := List.mem_append_left _ (h.clients listed hl)

/-- A stage has the answers of the one before it, and the answer that leads to it. -/
theorem Answered.next (h : stage.Answered maxSteps i events)
    (hn : stage.Next maxSteps i reload e stage') : stage'.Answered maxSteps i (events ++ [e]) := by
  cases hn with
  | enter => exact answered_firstStage reload
  | @roles listed resolver hbuild =>
      refine ⟨fun r hr => ?_, fun found hf => ?_⟩
      · rw [resolver?_afterRoles] at hr
        cases hr
        exact ⟨listed, by simp, hbuild⟩
      · rw [clients?_afterRoles] at hf
        cases hf
  | clients =>
      refine ⟨(h.mono _).roles, fun found hf => ?_⟩
      cases hf
      simp

end Stage

/-- A service has replaced its snapshots: the parts that were read, and those only.  The resolver
gets the next number, the table the next epoch; with a new table go the expansions, and the notes
of uses that it has caught up with. -/
structure Service.Replaced (s : Service) (resolver : Option Resolver)
    (clients : Option (List Client)) (s' : Service) : Prop where
  resolver_eq : s'.resolver = resolver.elim s.resolver (·.withGeneration (s.generation + 1))
  generation_eq : s'.generation = s.generation + if resolver.isSome then 1 else 0
  table_eq : s'.table =
    clients.elim s.table fun listed => ⟨s.table.epoch + 1, byKey Client.id listed⟩
  expansions_eq : s'.expansions = if clients.isSome then ∅ else s.expansions
  touched_eq : s'.touched = clients.elim s.touched fun listed =>
    s.touched.filter (isAhead (byKey Client.id listed))
  counters_eq : s'.counters = { s.counters with rebuilds := s.counters.rebuilds + 1 }
  notes_eq : s'.writeBacks = s.writeBacks
  flags_eq : (s'.pendingRoles, s'.pendingClients, s'.awake) =
    (s.pendingRoles, s.pendingClients, s.awake)

theorem Service.replaced_publish (s : Service) (resolver : Option Resolver)
    (clients : Option (List Client)) (started : Bool) :
    s.Replaced resolver clients { s.publish resolver clients with started } := by
  cases resolver <;> cases clients <;> exact ⟨rfl, rfl, rfl, rfl, rfl, rfl, rfl, rfl⟩

namespace Machine

variable {m m' m₀ m₁ : Machine} {i j : Nat} {duty : Duty} {reload : Reload} {stage : Stage}
  {e : Event} {events : List Event} {config : Config}

/-- A rebuild that has its turn: what it has read was answered to it, and since it has its turn no
snapshot was replaced. -/
structure Underway (config : Config) (m₀ : Machine) (i : Nat) (duty : Duty) (reload : Reload)
    (events : List Event) (m : Machine) (stage : Stage) : Prop where
  task : m.tasks[i]? = some ⟨duty, .rebuilding reload stage⟩
  reading : Task.isReading ⟨duty, .rebuilding reload stage⟩ = true
  answered : stage.Answered config.maxSteps i events
  same : m₀.service.SameSnapshots m.service

/-- While a rebuild goes on, no snapshot is replaced. -/
theorem Underway.next (h : Underway config m₀ i duty reload events m stage)
    (hr : Reachable config m) (he : m.next? e = some m') (hm : m'.Rebuilds i duty reload) :
    ∃ stage', Underway config m₀ i duty reload (events ++ [e]) m' stage' := by
  obtain ⟨stage', ht'⟩ := hm
  by_cases hi : e.mover? = some i
  · obtain ⟨-, -, hnext, lifecycle, hservice⟩ := (move_of_mover? he hi).rebuild_on h.task ht'
    rw [hr.config_eq] at hnext
    refine ⟨stage', ht', hnext.not_queued duty, h.answered.next hnext, h.same.trans ?_⟩
    rw [hservice]
    exact ⟨rfl, rfl, rfl, rfl⟩
  · -- whoever moves does not read: this rebuild holds the lock
    refine ⟨stage, kept_of_next? he hi h.task, h.reading, h.answered.mono e, h.same.trans ?_⟩
    refine sameSnapshots_of_next? he fun j t hj ht => Bool.eq_false_iff.2 fun hread => hi ?_
    rw [hj, hr.locked.rebuild.unique ht hread h.task h.reading]

/-- A rebuild that is underway still is as long as it does not end. -/
theorem underway_of_run (h₁ : Underway config m₀ i duty reload [] m₁ stage)
    (hr : Reachable config m₁) (hrun : Run (during i duty reload) m₁ events m)
    (hm : m.Rebuilds i duty reload) : ∃ stage, Underway config m₀ i duty reload events m stage := by
  induction hrun with
  | start => exact ⟨stage, h₁⟩
  | next hrun he hp ih =>
      obtain ⟨stage', h⟩ := ih hp
      exact h.next (hr.run hrun) he hm

/-- The turn of a rebuild shows in the lifecycle only. -/
theorem underway_of_turn (config : Config)
    (hq : m₀.tasks[i]? = some ⟨duty, .rebuilding reload .queued⟩)
    (hturn : m₀.next? (.move i) = some m₁) :
    Underway config m₀ i duty reload [] m₁ reload.firstStage ∧
      ∃ lifecycle, m₁.service = { m₀.service with lifecycle } := by
  rcases (move_of_mover? hturn rfl).rebuild hq with
    ⟨stage, hnext, htasks, -, lifecycle, hservice⟩ | ⟨cause, hwhy, -⟩ | ⟨_, _, hstage, -⟩
  · have hread := hnext.not_queued duty
    cases hnext with
    | enter =>
        have hlt := (List.getElem?_eq_some_iff.1 hq).1
        refine ⟨⟨by rw [htasks, List.getElem?_set_self hlt], hread,
          Stage.answered_firstStage reload, ?_⟩, lifecycle, hservice⟩
        rw [hservice]
        exact ⟨rfl, rfl, rfl, rfl⟩
  · cases hwhy
  · cases hstage

/-- **A rebuild is all or nothing.**  Let a rebuild get its turn, let anything happen while it goes
on, and take one event more.  Up to then no snapshot was replaced.  The event leaves the rebuild
where it is, unless it is a move of its own.  Such a move does not touch the service, but for its
lifecycle; or it is the end of the rebuild.  If the rebuild fails, because roles or clients were not
listed or the roles are refused, all that is left of it is one more failure in the counts.  If it
succeeds, what it was asked for, and nothing else, is replaced by what it was answered, all in this
one move. -/
theorem rebuild_all_or_nothing (hr : Reachable config m₀)
    (hq : m₀.tasks[i]? = some ⟨duty, .rebuilding reload .queued⟩)
    (hturn : m₀.next? (.move i) = some m₁) (hrun : Run (during i duty reload) m₁ events m)
    (hm : m.Rebuilds i duty reload) (he : m.next? e = some m') :
    (m₁.Rebuilds i duty reload ∧ ∃ lifecycle, m₁.service = { m₀.service with lifecycle }) ∧
    m₀.service.SameSnapshots m.service ∧
    (e.mover? ≠ some i → m'.tasks[i]? = m.tasks[i]?) ∧
    (e.mover? = some i →
      (∃ stage stage', m.tasks[i]? = some ⟨duty, .rebuilding reload stage⟩ ∧
        stage.Next config.maxSteps i reload e stage' ∧
        m'.tasks[i]? = some ⟨duty, .rebuilding reload stage'⟩ ∧
        ∃ lifecycle, m'.service = { m.service with lifecycle }) ∨
      (∃ stage cause, m.tasks[i]? = some ⟨duty, .rebuilding reload stage⟩ ∧
        Refusal config.maxSteps i e stage cause ∧
        m'.tasks[i]? = some ⟨duty, duty.after (.error cause)⟩ ∧
        ∃ lifecycle, m'.service = { m.service with
          lifecycle
          counters := { m.service.counters with
            rebuildFailures := m.service.counters.rebuildFailures + 1 } }) ∨
      ∃ resolver clients,
        resolver.isSome = reload.roles ∧ clients.isSome = reload.clients ∧
        (∀ r, resolver = some r → ∃ listed, .answerRoles i (.ok listed) ∈ events ∧
          Resolver.build listed config.maxSteps = .ok r) ∧
        (∀ listed, clients = some listed → .answerClients i (.ok listed) ∈ events) ∧
        m'.tasks[i]? = some ⟨duty, duty.after (.ok ())⟩ ∧
        m.service.Replaced resolver clients m'.service) := by
  obtain ⟨h₁, hfirst⟩ := underway_of_turn config hq hturn
  have hr₁ := hr.next hturn
  obtain ⟨stage, h⟩ := underway_of_run h₁ hr₁ hrun hm
  have hrm := hr₁.run hrun
  refine ⟨⟨⟨_, h₁.task⟩, hfirst⟩, h.same, fun hi => ?_, fun hi => ?_⟩
  · rw [h.task, kept_of_next? he hi h.task]
  · rcases (move_of_mover? he hi).rebuild h.task with
      ⟨stage', hnext, htasks, -, hservice⟩ | ⟨cause, hwhy, rfl⟩ | ⟨resolver, clients, rfl, -, rfl⟩
    · have hlt := (List.getElem?_eq_some_iff.1 h.task).1
      exact Or.inl ⟨stage, stage', h.task, hrm.config_eq ▸ hnext,
        by rw [htasks, List.getElem?_set_self hlt], hservice⟩
    · refine Or.inr (Or.inl ⟨stage, cause, h.task, hrm.config_eq ▸ hwhy, ?_, _,
        service_failRebuild m i duty cause⟩)
      exact getElem?_leaveRebuild (m := m.mapService Service.giveUp) h.task (.error cause)
    · obtain ⟨⟨hroles, hclients⟩, -⟩ := hrm.fitting _ (List.mem_of_getElem? h.task)
      refine Or.inr (Or.inr ⟨resolver, clients, hroles, hclients, h.answered.roles,
        h.answered.clients, ?_, ?_⟩)
      · exact getElem?_leaveRebuild (m := m.mapService (·.publish resolver clients)) h.task (.ok ())
      · rw [service_leaveRebuild_ok]
        exact m.service.replaced_publish resolver clients _

/-- A service over an empty store is set up, and is to be rebuilt at once. -/
def hallVisit : List Event :=
  [.setup none, .move 0, .move 0, .move 0, .answerRoles 0 (.ok []), .answerClients 0 (.ok []),
    .move 0, .rebuildNow, .move 2]

/-- The rebuild reads a role, and a query comes in. -/
def hallReading : List Event :=
  [.ask (.resolve []), .answerRoles 2 (.ok [.plain "hall".toList [] ⟨0, 0⟩])]

/-- Then the clients cannot be listed, and the role that was read does not show. -/
theorem rebuild_all_or_nothing_hall :
    ∃ m₀ m₁ m m', (new ⟨10, 100⟩ (.ofEntries [] [])).play? hallVisit = some m₀ ∧
      m₀.next? (.move 2) = some m₁ ∧
      Run (during 2 .rebuildNow .everything) m₁ hallReading m ∧
      m.next? (.answerClients 2 (.error (.sourceUnavailable []))) = some m' ∧
      m₀.service.SameSnapshots m.service ∧
      m'.tasks[2]? = some ⟨.rebuildNow, .ended (.error (.sourceUnavailable []))⟩ ∧
      m'.service.counters.rebuildFailures = m.service.counters.rebuildFailures + 1 := by
  obtain ⟨m₀, hplay, hq, m₁, hturn, m, hrun, hm, m', he, hend⟩ : ∃ m₀,
      (new ⟨10, 100⟩ (.ofEntries [] [])).play? hallVisit = some m₀ ∧
      m₀.tasks[2]? = some ⟨.rebuildNow, .rebuilding .everything .queued⟩ ∧
      ∃ m₁, m₀.next? (.move 2) = some m₁ ∧
      ∃ m, Run (during 2 .rebuildNow .everything) m₁ hallReading m ∧
      m.Rebuilds 2 .rebuildNow .everything ∧
      ∃ m', m.next? (.answerClients 2 (.error (.sourceUnavailable []))) = some m' ∧
      m'.tasks[2]? = some ⟨.rebuildNow, .ended (.error (.sourceUnavailable []))⟩ :=
    ⟨_, rfl, rfl, _, rfl, _, (Run.start.next rfl ⟨_, rfl⟩).next rfl ⟨_, rfl⟩, ⟨_, rfl⟩, _, rfl, rfl⟩
  have hr : Reachable ⟨10, 100⟩ m₀ := ⟨_, _, run_of_play? hplay⟩
  obtain ⟨-, hsame, -, hown⟩ := rebuild_all_or_nothing hr hq hturn hrun hm he
  refine ⟨m₀, m₁, m, m', hplay, hturn, hrun, he, hsame, hend, ?_⟩
  rcases hown rfl with ⟨_, _, -, hnext, -⟩ | ⟨_, _, -, -, -, _, hservice⟩ |
    ⟨_, _, -, -, -, -, hok, -⟩
  · cases hnext
  · rw [hservice]
  · rw [hend] at hok
    cases hok

end Machine
end DelegatedScopes
