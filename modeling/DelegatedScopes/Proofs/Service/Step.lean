import DelegatedScopes.Proofs.Service.Run

/-!
# The service — what an event does

* `Machine.Move`: the move of a task, by its duty and its phase.
* `Machine.Step`, `Machine.step_of_next?`: every event moves a task, starts one, or concerns the
  service or the store alone.
* `Service.Op`, `Machine.op_of_next?`: what of that the service itself notices.
-/

namespace DelegatedScopes

namespace Machine

/-! ### Cases -/

/-- Why a rebuild fails at a stage: the roles cannot be listed, they are refused, or the clients
cannot be listed. -/
inductive Refusal (maxSteps i : Nat) : Event → Stage → ResolutionError → Prop
  | roles {e : ResolutionError} : Refusal maxSteps i (.answerRoles i (.error e)) .listingRoles e
  | invalid {roles : List Role} {e : ResolutionError}
      (h : Resolver.build roles maxSteps = .error e) :
      Refusal maxSteps i (.answerRoles i (.ok roles)) .listingRoles e
  | clients {resolver : Option Resolver} {e : ResolutionError} :
      Refusal maxSteps i (.answerClients i (.error e)) (.listingClients resolver) e

/-- What the move of a task does, by its duty and its phase. -/
inductive Move (m : Machine) (i : Nat) : Event → Machine → Prop
  | askSetup {channel : Option Nat} (h : m.tasks[i]? = some ⟨.setup channel, .fresh⟩) :
      Move m i (.move i) (m.queueSetup i)
  | askRebuild (h : m.tasks[i]? = some ⟨.rebuildNow, .fresh⟩) (hs : m.service.started = true) :
      Move m i (.move i) (m.queueRebuild i .everything)
  | notReady (h : m.tasks[i]? = some ⟨.rebuildNow, .fresh⟩) (hs : m.service.started = false) :
      Move m i (.move i) (m.setPhase i (.ended (.error .notReady)))
  | parkWorker (h : m.tasks[i]? = some ⟨.work, .fresh⟩) :
      Move m i (.move i) (m.setPhase i .parked)
  | parkListener {channel : Nat} (h : m.tasks[i]? = some ⟨.listen channel, .fresh⟩) :
      Move m i (.move i) (m.setPhase i .parked)
  | skipSetup {channel : Option Nat} (h : m.tasks[i]? = some ⟨.setup channel, .atSetupLock⟩)
      (hi : m.setupQueue.head? = some i) (hs : m.service.started = true) :
      Move m i (.move i) ((m.discard channel).leaveSetup i (.ok ()))
  | enterSetup {channel : Option Nat} (h : m.tasks[i]? = some ⟨.setup channel, .atSetupLock⟩)
      (hi : m.setupQueue.head? = some i) (hs : m.service.started = false) :
      Move m i (.move i) (m.queueRebuild i .everything)
  | enterRebuild {duty : Duty} {reload : Reload}
      (h : m.tasks[i]? = some ⟨duty, .rebuilding reload .queued⟩)
      (hi : m.rebuildQueue.head? = some i) : Move m i (.move i) (m.enterRebuild i reload)
  | refused {duty : Duty} {reload : Reload} {stage : Stage} {event : Event} {e : ResolutionError}
      (h : m.tasks[i]? = some ⟨duty, .rebuilding reload stage⟩)
      (why : Refusal m.service.config.maxSteps i event stage e) :
      Move m i event (m.failRebuild i duty e)
  | rolesRead {duty : Duty} {reload : Reload} {roles : List Role} {resolver : Resolver}
      (h : m.tasks[i]? = some ⟨duty, .rebuilding reload .listingRoles⟩)
      (hr : Resolver.build roles m.service.config.maxSteps = .ok resolver) :
      Move m i (.answerRoles i (.ok roles)) (m.rolesLoaded i reload (some resolver))
  | clientsRead {duty : Duty} {reload : Reload} {resolver : Option Resolver} {clients : List Client}
      (h : m.tasks[i]? = some ⟨duty, .rebuilding reload (.listingClients resolver)⟩) :
      Move m i (.answerClients i (.ok clients))
        (m.setPhase i (.rebuilding reload (.loaded resolver (some clients))))
  | publish {duty : Duty} {reload : Reload} {resolver : Option Resolver}
      {clients : Option (List Client)}
      (h : m.tasks[i]? = some ⟨duty, .rebuilding reload (.loaded resolver clients)⟩) :
      Move m i (.move i)
        ((m.mapService (·.publish resolver clients)).leaveRebuild i duty (.ok ()))
  | wake (h : m.tasks[i]? = some ⟨.work, .parked⟩) (hs : m.service.awake = true) :
      Move m i (.move i) ((m.mapService fun s => { s with awake := false }).setPhase i .draining)
  | drain (h : m.tasks[i]? = some ⟨.work, .draining⟩)
      (hs : m.service.pendingRoles = true ∨ m.service.pendingClients = true) :
      Move m i (.move i)
        ((m.mapService fun s => { s with pendingRoles := false, pendingClients := false
          }).queueRebuild i ⟨m.service.pendingRoles, m.service.pendingClients⟩)
  | park (h : m.tasks[i]? = some ⟨.work, .draining⟩) (hr : m.service.pendingRoles = false)
      (hc : m.service.pendingClients = false) : Move m i (.move i) (m.setPhase i .parked)
  | hear {channel : Nat} {change : Change} {store : Store}
      (h : m.tasks[i]? = some ⟨.listen channel, .parked⟩)
      (hr : m.sources.store.receive? channel = some (change, store)) :
      Move m i (.move i) ((m.mapStore fun _ => store).mapService (·.request change))
  | endListening {channel : Nat} (h : m.tasks[i]? = some ⟨.listen channel, .parked⟩)
      (hf : m.sources.store.isFed channel = false) :
      Move m i (.move i) (m.setPhase i (.ended (.ok ())))

/-- What an event does: it moves a task, starts one, or concerns the service or the store alone. -/
inductive Step (m : Machine) : Event → Machine → Prop
  | move {i : Nat} {e : Event} {m' : Machine} (h : Move m i e m') : Step m e m'
  | setup {channel : Option Nat} (h : ∀ c ∈ channel, m.isFree c = true) :
      Step m (.setup channel) (m.start (.setup channel))
  | rebuildNow : Step m .rebuildNow (m.start .rebuildNow)
  | request (change : Change) : Step m (.request change) (m.mapService (·.request change))
  | ask (query : Query) : Step m (.ask query) (m.mapService (·.asked query))
  | edit (change : Edit) : Step m (.edit change) (m.mapStore (·.edited change))
  | deliver {k : Nat} {m' : Machine} (h : m.deliver? k = some m') : Step m (.deliver k) m'
  | subscribe (capacity : Nat) :
      Step m (.subscribe capacity) (m.mapStore fun s => (s.subscribe capacity).2)
  | receive {channel : Nat} {change : Change} {store : Store} (h : m.isFree channel = true)
      (hr : m.sources.store.receive? channel = some (change, store)) :
      Step m (.receive channel) (m.mapStore fun _ => store)
  | close {channel : Nat} (h : m.isFree channel = true) :
      Step m (.close channel) (m.mapStore (·.close channel))
  | rewire (rolesOutage clientsOutage : Option Text) (gateClosed holding : Bool) (passes : Nat) :
      Step m (.rewire rolesOutage clientsOutage gateClosed holding passes)
        { m with
          sources := ⟨m.sources.store, rolesOutage, clientsOutage, gateClosed, holding, passes⟩ }

/-! ### There are no other cases -/

theorem Move.mover? {m m' : Machine} {i : Nat} {e : Event} (h : Move m i e m') :
    e.mover? = some i := by
  cases h with
  | refused _ why => cases why <;> rfl
  | _ => rfl

/-- A task that is fresh begins with its duty. -/
theorem move_begin {m : Machine} {i : Nat} {duty : Duty}
    (h : m.tasks[i]? = some ⟨duty, .fresh⟩) : Move m i (.move i) (m.begin i duty) := by
  cases duty with
  | setup channel => exact .askSetup h
  | rebuildNow =>
      rw [begin]
      split
      · rename_i hs
        exact .askRebuild h hs
      · rename_i hs
        exact .notReady h (by simpa using hs)
  | work => exact .parkWorker h
  | listen channel => exact .parkListener h

theorem move_enterSetup {m : Machine} {i : Nat} {channel : Option Nat}
    (h : m.tasks[i]? = some ⟨.setup channel, .atSetupLock⟩) (hi : m.setupQueue.head? = some i) :
    Move m i (.move i) (m.enterSetup i channel) := by
  rw [enterSetup]
  split
  · rename_i hs
    exact .skipSetup h hi hs
  · rename_i hs
    exact .enterSetup h hi (by simpa using hs)

theorem move_drain {m : Machine} {i : Nat} (h : m.tasks[i]? = some ⟨.work, .draining⟩) :
    Move m i (.move i) (m.drain i) := by
  rw [drain]
  split
  · rename_i hs
    exact .drain h (by simpa using hs)
  · rename_i hs
    simp only [Bool.or_eq_true, not_or, Bool.not_eq_true] at hs
    exact .park h hs.1 hs.2

theorem move_listen {m m' : Machine} {i channel : Nat}
    (h : m.tasks[i]? = some ⟨.listen channel, .parked⟩) (hm : m.listen? i channel = some m') :
    Move m i (.move i) m' := by
  rw [listen?] at hm
  split at hm
  · rename_i change store hr
    obtain rfl := Option.some.inj hm
    exact .hear h hr
  · simp only [Option.ite_none_left_eq_some, Bool.not_eq_true, Option.some.injEq] at hm
    obtain ⟨hf, rfl⟩ := hm
    exact .endListening h hf

/-- A move of a task that waits for no listing is one of the moves that there are. -/
theorem move_of_move? {m m' : Machine} {i : Nat} (hl : m.tasks[i]?.any Task.isListing = false)
    (h : m.move? i = some m') : Move m i (.move i) m' := by
  cases ht : m.tasks[i]? with
  | none => simp [move?, ht] at h
  | some t =>
      obtain ⟨duty, phase⟩ := t
      simp only [move?, ht, Option.bind_eq_bind, Option.bind_some] at h
      simp only [ht, Option.any_some] at hl
      cases phase with
      | fresh => exact Option.some.inj h ▸ move_begin ht
      | atSetupLock =>
          cases duty with
          | setup channel =>
              simp only [Option.ite_none_right_eq_some, Option.some.injEq] at h
              exact h.2 ▸ move_enterSetup ht h.1
          | _ => cases h
      | rebuilding reload stage =>
          cases stage with
          | queued =>
              simp only [advance?, Option.ite_none_right_eq_some, Option.some.injEq] at h
              exact h.2 ▸ .enterRebuild ht h.1
          | listingRoles => cases hl
          | listingClients resolver => cases hl
          | loaded resolver clients => exact Option.some.inj h ▸ .publish ht
      | parked =>
          cases duty with
          | work =>
              simp only [Option.ite_none_right_eq_some, Option.some.injEq] at h
              exact h.2 ▸ .wake ht h.1
          | listen channel => exact move_listen ht h
          | _ => cases h
      | draining =>
          cases duty with
          | work => exact Option.some.inj h ▸ move_drain ht
          | _ => cases h
      | ended result => cases h

/-- A listing of roles is taken by the task that waits for it. -/
theorem move_takeRoles {m : Machine} {i : Nat} {duty : Duty} {reload : Reload}
    (h : m.tasks[i]? = some ⟨duty, .rebuilding reload .listingRoles⟩)
    (answer : Except ResolutionError (List Role)) :
    Move m i (.answerRoles i answer) (m.takeRoles i duty reload answer) := by
  cases answer with
  | error e => exact .refused h .roles
  | ok roles =>
      rw [takeRoles]
      split
      · rename_i e hb
        exact .refused h (.invalid hb)
      · rename_i resolver hb
        exact .rolesRead h hb

theorem move_takeClients {m : Machine} {i : Nat} {duty : Duty} {reload : Reload}
    {resolver : Option Resolver}
    (h : m.tasks[i]? = some ⟨duty, .rebuilding reload (.listingClients resolver)⟩)
    (answer : Except ResolutionError (List Client)) :
    Move m i (.answerClients i answer) (m.takeClients i duty reload resolver answer) := by
  cases answer with
  | error e => exact .refused h .clients
  | ok clients => exact .clientsRead h

/-- **Every event does one of these things.** -/
theorem step_of_next? {m m' : Machine} {e : Event} (h : m.next? e = some m') : Step m e m' := by
  cases e with
  | move i =>
      simp only [next?, Option.ite_none_left_eq_some, Bool.not_eq_true] at h
      exact .move (move_of_move? h.1 h.2)
  | answerRoles i answer =>
      simp only [next?] at h
      split at h
      · rename_i duty reload ht
        obtain rfl := Option.some.inj h
        exact .move (move_takeRoles ht answer)
      · cases h
  | answerClients i answer =>
      simp only [next?] at h
      split at h
      · rename_i duty reload resolver ht
        obtain rfl := Option.some.inj h
        exact .move (move_takeClients ht answer)
      · cases h
  | setup channel =>
      simp only [next?, Option.ite_none_right_eq_some, Option.some.injEq] at h
      obtain ⟨hfree, rfl⟩ := h
      exact .setup fun c hc => by
        obtain rfl : channel = some c := hc
        simpa using hfree
  | rebuildNow =>
      obtain rfl := Option.some.inj h
      exact .rebuildNow
  | request change =>
      obtain rfl := Option.some.inj h
      exact .request change
  | ask query =>
      obtain rfl := Option.some.inj h
      exact .ask query
  | edit change =>
      obtain rfl := Option.some.inj h
      exact .edit change
  | deliver k => exact .deliver h
  | subscribe capacity =>
      obtain rfl := Option.some.inj h
      exact .subscribe capacity
  | receive channel =>
      simp only [next?, Option.ite_none_right_eq_some, Option.map_eq_some_iff, Prod.exists] at h
      obtain ⟨hfree, change, store, hr, rfl⟩ := h
      exact .receive hfree hr
  | close channel =>
      simp only [next?, Option.ite_none_right_eq_some, Option.some.injEq] at h
      obtain ⟨hfree, rfl⟩ := h
      exact .close hfree
  | rewire rolesOutage clientsOutage gateClosed holding passes =>
      obtain rfl := Option.some.inj h
      exact .rewire ..

/-- An event that moves a task is one of the moves that there are. -/
theorem move_of_mover? {m m' : Machine} {i : Nat} {e : Event} (h : m.next? e = some m')
    (hi : e.mover? = some i) : Move m i e m' := by
  cases step_of_next? h with
  | move hmove =>
      obtain rfl := Option.some.inj (hmove.mover?.symm.trans hi)
      exact hmove
  | _ => cases hi

end Machine

/-! ### What the service notices -/

/-- What an event does to the service itself: a query, a request, the start or an end of a rebuild,
or no more than what it keeps of work to be done.  With the first snapshots the worker is
started. -/
inductive Service.Op (s : Service) : Service → Prop
  | asked (query : Query) : Op s (s.asked query)
  | request (change : Change) : Op s (s.request change)
  | beginRebuild : Op s s.beginRebuild
  | giveUp : Op s s.giveUp
  | publish (resolver : Option Resolver) (clients : Option (List Client)) (started : Bool) :
      Op s { s.publish resolver clients with started }
  | tidy (writeBacks : List WriteBack) (pendingRoles pendingClients awake : Bool) :
      Op s { s with writeBacks, pendingRoles, pendingClients, awake }

theorem Service.Op.same (s : Service) : s.Op s :=
  .tidy s.writeBacks s.pendingRoles s.pendingClients s.awake

/-! ### What a query leaves alone -/

/-- Two counts of a service agree on its rebuilds. -/
def Counters.SameRebuilds (c c' : Counters) : Prop :=
  c'.rebuilds = c.rebuilds ∧ c'.rebuildFailures = c.rebuildFailures

namespace Service

/-- An expansion is counted and cached, and changes nothing else. -/
theorem frame_expansionOf (s : Service) (c : Client) :
    ∃ counters expansions, (s.expansionOf c).2 = { s with counters, expansions } ∧
      s.counters.SameRebuilds counters := by
  rw [expansionOf]
  split
  · exact ⟨_, s.expansions, rfl, rfl, rfl⟩
  · dsimp only
    split
    · exact ⟨_, s.expansions, rfl, rfl, rfl⟩
    · exact ⟨_, _, rfl, rfl, rfl⟩

/-- A record of use is remembered, counted and written back, and changes nothing else. -/
theorem frame_recordUse (s : Service) (c : Client) (now : Instant) :
    ∃ touched counters writeBacks,
      (s.recordUse c now).2 = { s with touched, counters, writeBacks } ∧
        s.counters.SameRebuilds counters := by
  rw [recordUse]
  split
  · dsimp only
    split
    · split
      · exact ⟨_, _, _, rfl, rfl, rfl⟩
      · exact ⟨_, s.counters, s.writeBacks, rfl, rfl, rfl⟩
    · exact ⟨_, _, _, rfl, rfl, rfl⟩
  · exact ⟨s.touched, s.counters, s.writeBacks, rfl, rfl, rfl⟩

/-- **A query keeps expansions and notes, and counts; it does nothing else.** -/
theorem frame_asked (s : Service) (query : Query) :
    ∃ counters expansions touched writeBacks,
      s.asked query = { s with counters, expansions, touched, writeBacks } ∧
        s.counters.SameRebuilds counters := by
  cases query with
  | resolve scopes =>
      rw [asked, resolve]
      split
      · exact ⟨_, s.expansions, s.touched, s.writeBacks, rfl, rfl, rfl⟩
      · exact ⟨s.counters, s.expansions, s.touched, s.writeBacks, rfl, rfl, rfl⟩
  | loadRole id => exact ⟨s.counters, s.expansions, s.touched, s.writeBacks, rfl, rfl, rfl⟩
  | loadClient id now =>
      rw [asked, loadClient]
      split
      · split
        · exact ⟨s.counters, s.expansions, s.touched, s.writeBacks, rfl, rfl, rfl⟩
        · rename_i c _
          obtain ⟨counters, expansions, hexp, hsame⟩ := s.frame_expansionOf c
          split
          · rename_i e s' heq
            rw [heq] at hexp
            exact ⟨counters, expansions, s.touched, s.writeBacks, hexp, hsame⟩
          · rename_i expanded s' heq
            rw [heq] at hexp
            obtain ⟨touched, counters', writeBacks, huse, hsame'⟩ := s'.frame_recordUse c now
            dsimp only at hexp ⊢
            rw [huse, hexp]
            rw [hexp] at hsame'
            exact ⟨counters', expansions, touched, writeBacks, rfl,
              hsame'.1.trans hsame.1, hsame'.2.trans hsame.2⟩
      · exact ⟨s.counters, s.expansions, s.touched, s.writeBacks, rfl, rfl, rfl⟩

end Service

/-! ### What each event asks of the service -/

namespace Machine

@[simp] theorem service_discard (m : Machine) (channel : Option Nat) :
    (m.discard channel).service = m.service := by
  cases channel <;> rfl

@[simp] theorem service_launch (m : Machine) (channel : Option Nat) :
    (m.launch channel).service = { m.service with started := true } := by
  cases channel <;> rfl

theorem service_enterRebuild (m : Machine) (i : Nat) (reload : Reload) :
    (m.enterRebuild i reload).service = m.service.beginRebuild := by
  rw [enterRebuild]
  split <;> rfl

theorem service_failRebuild (m : Machine) (i : Nat) (duty : Duty) (e : ResolutionError) :
    (m.failRebuild i duty e).service = m.service.giveUp := by
  cases duty with
  | setup channel => exact service_discard _ channel
  | _ => rfl

/-- The end of a setup starts the worker; the end of any other rebuild leaves the service alone. -/
theorem service_leaveRebuild_ok (m : Machine) (i : Nat) (duty : Duty) :
    (m.leaveRebuild i duty (.ok ())).service =
      { m.service with started := m.service.started || duty matches .setup _ } := by
  cases duty with
  | setup channel => exact (service_launch _ channel).trans (by simp)
  | _ => simp [leaveRebuild, resume, setPhase]

/-- A move does one thing to the service, or nothing. -/
theorem Move.op {m m' : Machine} {i : Nat} {e : Event} (h : Move m i e m') :
    m.service.Op m'.service := by
  cases h with
  | skipSetup => exact (service_discard m _).symm ▸ .same m.service
  | enterRebuild => exact (service_enterRebuild m i _).symm ▸ .beginRebuild
  | refused => exact (service_failRebuild m i _ _).symm ▸ .giveUp
  | publish => exact (service_leaveRebuild_ok _ i _).symm ▸ .publish ..
  | wake => exact .tidy m.service.writeBacks _ _ false
  | drain => exact .tidy m.service.writeBacks false false m.service.awake
  | hear => exact .request _
  | _ => exact .same m.service

theorem service_deliver {m m' : Machine} {k : Nat} (h : m.deliver? k = some m') :
    ∃ writeBacks, m'.service = { m.service with writeBacks } := by
  rw [deliver?] at h
  split at h
  · cases h
  · obtain rfl := Option.some.inj h
    split <;> exact ⟨_, rfl⟩

theorem op_deliver {m m' : Machine} {k : Nat} (h : m.deliver? k = some m') :
    m.service.Op m'.service := by
  obtain ⟨writeBacks, hm⟩ := service_deliver h
  exact hm ▸ .tidy writeBacks m.service.pendingRoles m.service.pendingClients m.service.awake

/-- **The service changes by its own operations only.** -/
theorem op_of_next? {m m' : Machine} {e : Event} (h : m.next? e = some m') :
    m.service.Op m'.service := by
  cases step_of_next? h with
  | move h => exact h.op
  | request change => exact .request change
  | ask query => exact .asked query
  | deliver h => exact op_deliver h
  | _ => exact .same m.service

end Machine
end DelegatedScopes
