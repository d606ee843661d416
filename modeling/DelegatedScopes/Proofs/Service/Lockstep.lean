import DelegatedScopes.Proofs.Service.Alike

/-!
# The service — two machines in lockstep

Two machines that agree but for the tokens of their clients are followed side by side: over their
sources, in their services and in what their tasks have read.  What can happen to one can happen to
the other, and they still agree.

* `Machine.Alike`: machines that agree but for the tokens.
* `Machine.act?`: what can happen to a machine that its own sources answer.
* `Machine.Alike.act?`: it happens to both.
-/

namespace DelegatedScopes

/-! ### Sources and tasks -/

/-- Sources over stores that agree but for the tokens. -/
inductive Sources.Alike (s : Sources) : Sources → Prop
  | intro {store : Store} (h : s.store.Alike store) : Alike s { s with store := store }

namespace Sources.Alike

variable {s s' : Sources}

theorem store (h : s.Alike s') : s.store.Alike s'.store := by
  obtain ⟨h⟩ := h
  exact h

/-- The stores may change, as long as they stay alike. -/
theorem mapStore (h : s.Alike s') {g g' : Store → Store} (hg : (g s.store).Alike (g' s'.store)) :
    (s.mapStore g).Alike (s'.mapStore g') := by
  obtain ⟨h⟩ := h
  exact .intro hg

theorem holding_eq (h : s.Alike s') : s.holding = s'.holding := by
  obtain ⟨-⟩ := h
  rfl

/-- A gate holds both listings of roles or neither. -/
theorem arrive (h : s.Alike s') : s.arrive.Alike s'.arrive := by
  obtain @⟨store, h⟩ := h
  have hclosed : ({ s with store := store } : Sources).gateClosed = s.gateClosed := rfl
  unfold Sources.arrive
  rw [hclosed]
  split
  · exact .intro h
  · exact .intro h

/-- Sources that are alike list the same roles, since no role has a token. -/
theorem listRoles (h : s.Alike s') : s.listRoles = s'.listRoles := by
  obtain ⟨h⟩ := h
  unfold Sources.listRoles
  rw [h.listRoles]

/-- Sources that are alike list clients that agree but for the tokens. -/
theorem listClients (h : s.Alike s') :
    s.listClients.map (List.map Client.tokenless) =
      s'.listClients.map (List.map Client.tokenless) := by
  obtain ⟨h⟩ := h
  unfold Sources.listClients
  rcases through s.clientsOutage with e | _
  · rfl
  · exact h.listClients

end Sources.Alike

/-- Tasks that agree but for the tokens of the clients that they have read. -/
inductive Task.Alike : Task → Task → Prop
  | loaded {duty : Duty} {reload : Reload} {resolver : Option Resolver}
      {clients clients' : Option (List Client)}
      (h : clients.map (List.map Client.tokenless) = clients'.map (List.map Client.tokenless)) :
      Alike ⟨duty, .rebuilding reload (.loaded resolver clients)⟩
        ⟨duty, .rebuilding reload (.loaded resolver clients')⟩
  | same (t : Task) : Alike t t

/-- Events that agree but for the tokens of the clients that they bring. -/
inductive Event.Alike : Event → Event → Prop
  | answerClients {i : Nat} {answer answer' : Except ResolutionError (List Client)}
      (h : answer.map (List.map Client.tokenless) = answer'.map (List.map Client.tokenless)) :
      Alike (.answerClients i answer) (.answerClients i answer')
  | edit {change change' : Edit} (h : change.Alike change') : Alike (.edit change) (.edit change')
  | same (e : Event) : Alike e e

/-- Tasks that agree but for the tokens have the same duty. -/
theorem Task.Alike.duty_eq {t t' : Task} (h : t.Alike t') : t.duty = t'.duty := by
  cases h <;> rfl

/-! ### Machines -/

/-- Machines that agree but for the tokens. -/
structure Machine.Alike (m m' : Machine) : Prop where
  service : m.service.Alike m'.service
  sources : m.sources.Alike m'.sources
  tasks : List.Forall₂ Task.Alike m.tasks m'.tasks
  setupQueue : m.setupQueue = m'.setupQueue
  rebuildQueue : m.rebuildQueue = m'.rebuildQueue

/-- Lists that correspond still do when they are changed in one place. -/
theorem forall₂_modify {α β : Type} {R : α → β → Prop} {f : α → α} {g : β → β}
    (hfg : ∀ {a b}, R a b → R (f a) (g b)) {l : List α} {l' : List β} (h : List.Forall₂ R l l')
    (i : Nat) : List.Forall₂ R (l.modify i f) (l'.modify i g) := by
  induction h generalizing i with
  | nil => cases i <;> exact .nil
  | cons ha hl ih =>
      cases i with
      | zero => exact .cons (hfg ha) hl
      | succ i => exact .cons ha (ih i)

theorem rel_getElem? {α β : Type} {R : α → β → Prop} {l : List α} {l' : List β}
    (h : List.Forall₂ R l l') (i : Nat) : Option.Rel R l[i]? l'[i]? := by
  induction h generalizing i with
  | nil => exact .none
  | cons ha hl ih =>
      cases i with
      | zero => exact .some ha
      | succ i => exact ih i

namespace Machine

variable {m m' : Machine}

namespace Alike

/-- A machine is changed in its service. -/
theorem mapService (h : m.Alike m') {g g' : Service → Service}
    (hg : (g m.service).Alike (g' m'.service)) : (m.mapService g).Alike (m'.mapService g') :=
  { h with service := hg }

/-- What is done to the services without a look at their tables leaves them alike. -/
theorem onService (h : m.Alike m') (g : Service → Service)
    (hg : ∀ s table, g (s.withTable table) = (g s).withTable table) :
    (m.mapService g).Alike (m'.mapService g) := h.mapService (h.service.map hg)

/-- A machine is changed in its store. -/
theorem mapStore (h : m.Alike m') {g g' : Store → Store}
    (hg : (g m.sources.store).Alike (g' m'.sources.store)) :
    (m.mapStore g).Alike (m'.mapStore g') :=
  { h with sources := h.sources.mapStore hg }

theorem withStore (h : m.Alike m') {store store' : Store} (hs : store.Alike store') :
    (m.mapStore fun _ => store).Alike (m'.mapStore fun _ => store') := by
  refine h.mapStore ?_
  exact hs

theorem start (h : m.Alike m') (duty : Duty) : (m.start duty).Alike (m'.start duty) :=
  { h with tasks := List.rel_append h.tasks (.cons (.same _) .nil) }

/-- A task is moved on, and may have read clients that agree but for the tokens. -/
theorem setPhase (h : m.Alike m') (i : Nat) {phase phase' : Phase}
    (hphase : ∀ duty, Task.Alike ⟨duty, phase⟩ ⟨duty, phase'⟩) :
    (m.setPhase i phase).Alike (m'.setPhase i phase') := by
  refine { h with tasks := forall₂_modify (fun {t t'} ht => ?_) h.tasks i }
  rw [ht.duty_eq]
  exact hphase _

theorem withSetupQueue (h : m.Alike m') {queue queue' : List Nat} (hq : queue = queue') :
    { m with setupQueue := queue }.Alike { m' with setupQueue := queue' } :=
  { h with setupQueue := hq }

theorem withRebuildQueue (h : m.Alike m') {queue queue' : List Nat} (hq : queue = queue') :
    { m with rebuildQueue := queue }.Alike { m' with rebuildQueue := queue' } :=
  { h with rebuildQueue := hq }

/-- What the tasks at an index can differ in. -/
theorem task_cases (h : m.Alike m') (i : Nat) :
    (m.tasks[i]? = none ∧ m'.tasks[i]? = none) ∨
      ∃ t t', m.tasks[i]? = some t ∧ m'.tasks[i]? = some t' ∧ t.Alike t' := by
  have ht := rel_getElem? h.tasks i
  generalize m.tasks[i]? = task at ht
  generalize m'.tasks[i]? = task' at ht
  cases ht with
  | none => exact .inl ⟨rfl, rfl⟩
  | some ht => exact .inr ⟨_, _, rfl, rfl, ht⟩

/-- Both wait for the setup lock. -/
theorem queueSetup (h : m.Alike m') (i : Nat) : (m.queueSetup i).Alike (m'.queueSetup i) :=
  (h.setPhase i fun _ => .same _).withSetupQueue (congrArg (· ++ [i]) h.setupQueue)

/-- Both setups end with the same result. -/
theorem leaveSetup (h : m.Alike m') (i : Nat) (result : Except ResolutionError Unit) :
    (m.leaveSetup i result).Alike (m'.leaveSetup i result) :=
  (h.setPhase i fun _ => .same _).withSetupQueue (congrArg List.tail h.setupQueue)

/-- Both give up the channel. -/
theorem discard (h : m.Alike m') (channel : Option Nat) :
    (m.discard channel).Alike (m'.discard channel) := by
  cases channel with
  | none => exact h
  | some c => exact h.mapStore (h.sources.store.onChannel c _)

/-- Both start a worker, and a listener if there is a channel. -/
theorem launch (h : m.Alike m') (channel : Option Nat) :
    (m.launch channel).Alike (m'.launch channel) := by
  have hlisten : (channel.elim (m.start .work) fun c => (m.start .work).start (.listen c)).Alike
      (channel.elim (m'.start .work) fun c => (m'.start .work).start (.listen c)) := by
    cases channel with
    | none => exact h.start .work
    | some c => exact (h.start .work).start (.listen c)
  exact hlisten.onService (fun s => { s with started := true }) fun _ _ => rfl

/-- Both wait for the rebuild lock. -/
theorem queueRebuild (h : m.Alike m') (i : Nat) (reload : Reload) :
    (m.queueRebuild i reload).Alike (m'.queueRebuild i reload) :=
  (h.setPhase i fun _ => .same _).withRebuildQueue (congrArg (· ++ [i]) h.rebuildQueue)

/-- Both tasks go on in the same way when their rebuilds end with the same result. -/
theorem resume (h : m.Alike m') (i : Nat) (result : Except ResolutionError Unit) (duty : Duty) :
    (m.resume i result duty).Alike (m'.resume i result duty) := by
  cases duty with
  | setup channel =>
      cases result with
      | ok _ => exact (h.launch channel).leaveSetup i _
      | error e => exact (h.discard channel).leaveSetup i _
  | rebuildNow => exact h.setPhase i fun _ => .same _
  | work => exact h.setPhase i fun _ => .same _
  | listen channel => exact h.setPhase i fun _ => .same _

theorem leaveRebuild (h : m.Alike m') (i : Nat) (duty : Duty)
    (result : Except ResolutionError Unit) :
    (m.leaveRebuild i duty result).Alike (m'.leaveRebuild i duty result) :=
  (h.withRebuildQueue (congrArg List.tail h.rebuildQueue)).resume i result duty

/-- Both rebuilds fail. -/
theorem failRebuild (h : m.Alike m') (i : Nat) (duty : Duty) (e : ResolutionError) :
    (m.failRebuild i duty e).Alike (m'.failRebuild i duty e) :=
  (h.mapService h.service.giveUp).leaveRebuild i duty _

theorem rolesLoaded (h : m.Alike m') (i : Nat) (reload : Reload) (resolver : Option Resolver) :
    (m.rolesLoaded i reload resolver).Alike (m'.rolesLoaded i reload resolver) :=
  h.setPhase i fun _ => .same _

/-- Both rebuilds have their turn, and ask for the same. -/
theorem enterRebuild (h : m.Alike m') (i : Nat) (reload : Reload) :
    (m.enterRebuild i reload).Alike (m'.enterRebuild i reload) := by
  have hbegun := h.mapService h.service.beginRebuild
  unfold Machine.enterRebuild
  split
  · have harrived : { m.mapService Service.beginRebuild with sources := m.sources.arrive }.Alike
        { m'.mapService Service.beginRebuild with sources := m'.sources.arrive } :=
      { hbegun with sources := h.sources.arrive }
    exact harrived.setPhase i fun _ => .same _
  · exact hbegun.rolesLoaded i reload none

/-- Both rebuilds compile the same roles, or fail over them with the same error. -/
theorem takeRoles (h : m.Alike m') (i : Nat) (duty : Duty) (reload : Reload)
    (answer : Except ResolutionError (List Role)) :
    (m.takeRoles i duty reload answer).Alike (m'.takeRoles i duty reload answer) := by
  cases answer with
  | error e => exact h.failRebuild i duty e
  | ok roles =>
      unfold Machine.takeRoles
      rw [h.service.congr (g := Service.config) fun _ _ => rfl]
      dsimp only
      split
      · exact h.failRebuild i duty _
      · exact h.rolesLoaded i reload _

/-- Both rebuilds keep the clients that were listed, which agree but for the tokens, until they
publish. -/
theorem takeClients (h : m.Alike m') (i : Nat) (duty : Duty) (reload : Reload)
    (resolver : Option Resolver) {answer answer' : Except ResolutionError (List Client)}
    (ha : answer.map (List.map Client.tokenless) = answer'.map (List.map Client.tokenless)) :
    (m.takeClients i duty reload resolver answer).Alike
      (m'.takeClients i duty reload resolver answer') := by
  rcases answer with e | clients <;> rcases answer' with e' | clients'
  · cases ha
    exact h.failRebuild i duty e
  · cases ha
  · cases ha
  · exact h.setPhase i fun _ => .loaded (congrArg some (Except.ok.inj ha))

/-! ### What can happen -/

/-- Both tasks start. -/
theorem begin (h : m.Alike m') (i : Nat) (duty : Duty) :
    (m.begin i duty).Alike (m'.begin i duty) := by
  cases duty with
  | setup channel => exact h.queueSetup i
  | rebuildNow =>
      unfold Machine.begin
      dsimp only
      rw [h.service.congr (g := Service.started) fun _ _ => rfl]
      split
      · exact h.queueRebuild i _
      · exact h.setPhase i fun _ => .same _
  | work => exact h.setPhase i fun _ => .same _
  | listen channel => exact h.setPhase i fun _ => .same _

/-- Both setups have their turn, and both have work to do or neither has. -/
theorem enterSetup (h : m.Alike m') (i : Nat) (channel : Option Nat) :
    (m.enterSetup i channel).Alike (m'.enterSetup i channel) := by
  unfold Machine.enterSetup
  rw [h.service.congr (g := Service.started) fun _ _ => rfl]
  split
  · exact (h.discard channel).leaveSetup i _
  · exact h.queueRebuild i _

/-- Both workers find the same changes to look after. -/
theorem drain (h : m.Alike m') (i : Nat) : (m.drain i).Alike (m'.drain i) := by
  unfold Machine.drain
  rw [h.service.congr (g := Service.pendingRoles) fun _ _ => rfl,
    h.service.congr (g := Service.pendingClients) fun _ _ => rfl]
  dsimp only
  split
  · exact (h.onService (fun s => { s with pendingRoles := false, pendingClients := false })
      fun _ _ => rfl).queueRebuild i _
  · exact h.setPhase i fun _ => .same _

/-- Both listeners take the same change from the channel, or wait, or end. -/
theorem listen? (h : m.Alike m') (i channel : Nat) :
    Option.Rel Alike (m.listen? i channel) (m'.listen? i channel) := by
  unfold Machine.listen?
  obtain ⟨hr, hr'⟩ | ⟨change, a, a', hr, hr', ha⟩ := h.sources.store.receive? channel
  · rw [hr, hr', h.sources.store.isFed channel]
    dsimp only
    split
    · exact .none
    · exact .some (h.setPhase i fun _ => .same _)
  · rw [hr, hr']
    have hstore := h.withStore ha
    exact .some (hstore.mapService (hstore.service.request change))

/-- Both rebuilds go on by one move, or neither can. -/
theorem advance? (h : m.Alike m') (i : Nat) (duty : Duty) (reload : Reload) (stage : Stage) :
    Option.Rel Alike (m.advance? i duty reload stage) (m'.advance? i duty reload stage) := by
  cases stage with
  | queued =>
      unfold Machine.advance?
      rw [h.rebuildQueue]
      dsimp only
      split
      · exact .some (h.enterRebuild i reload)
      · exact .none
  | listingRoles =>
      unfold Machine.advance?
      rw [h.sources.holding_eq, h.sources.listRoles]
      dsimp only
      split
      · exact .none
      · exact .some (h.takeRoles i duty reload _)
  | listingClients resolver =>
      exact .some (h.takeClients i duty reload resolver h.sources.listClients)
  | loaded resolver clients =>
      exact .some ((h.mapService (h.service.publish resolver rfl)).leaveRebuild i duty _)

/-- The next move of a task is the same in both machines. -/
theorem move? (h : m.Alike m') (i : Nat) : Option.Rel Alike (m.move? i) (m'.move? i) := by
  unfold Machine.move?
  obtain ⟨ht, ht'⟩ | ⟨t, t', ht, ht', halike⟩ := h.task_cases i
  · rw [ht, ht']
    exact .none
  · rw [ht, ht']
    -- Two tasks differ at most in the clients they have read, and then both publish them now.
    cases halike with
    | @loaded duty reload resolver clients clients' hc =>
        exact .some ((h.mapService (h.service.publish resolver hc)).leaveRebuild i duty _)
    | same =>
        obtain ⟨duty, phase⟩ := t
        cases phase with
        | fresh => exact .some (h.begin i duty)
        | rebuilding reload stage => exact h.advance? i duty reload stage
        | ended result => exact .none
        | atSetupLock =>
            cases duty with
            | setup channel =>
                dsimp only [Option.bind_eq_bind, Option.bind_some]
                rw [h.setupQueue]
                split
                · exact .some (h.enterSetup i channel)
                · exact .none
            | _ => exact .none
        | parked =>
            cases duty with
            | work =>
                dsimp only [Option.bind_eq_bind, Option.bind_some]
                rw [h.service.congr (g := Service.awake) fun _ _ => rfl]
                split
                · exact .some ((h.onService (fun s => { s with awake := false })
                    fun _ _ => rfl).setPhase i fun _ => .same _)
                · exact .none
            | listen channel => exact h.listen? i channel
            | _ => exact .none
        | draining =>
            cases duty with
            | work => exact .some (h.drain i)
            | _ => exact .none

/-- The same note reaches both stores, or is lost on the way to both. -/
theorem deliver? (h : m.Alike m') (k : Nat) :
    Option.Rel Alike (m.deliver? k) (m'.deliver? k) := by
  unfold Machine.deliver?
  rw [h.service.congr (g := Service.writeBacks) fun _ _ => rfl]
  rcases m'.service.writeBacks[k]? with _ | note
  · exact .none
  · have herased := h.onService (fun s => { s with writeBacks := s.writeBacks.eraseIdx k })
      fun _ _ => rfl
    dsimp only [Machine.mapService] at herased ⊢
    obtain ⟨e, ht, ht'⟩ | ⟨a, a', ht, ht', ha⟩ := h.sources.store.touch note.clientId note.usedAt
    · rw [ht, ht']
      exact .some herased
    · rw [ht, ht']
      exact .some (herased.withStore ha)

theorem answerRoles (h : m.Alike m') (i : Nat) (answer : Except ResolutionError (List Role)) :
    Option.Rel Alike (m.next? (.answerRoles i answer)) (m'.next? (.answerRoles i answer)) := by
  unfold next?
  dsimp only
  obtain ⟨ht, ht'⟩ | ⟨t, t', ht, ht', halike⟩ := h.task_cases i
  · rw [ht, ht']
    exact .none
  · rw [ht, ht']
    cases halike with
    | loaded _ => exact .none
    | same =>
        obtain ⟨duty, phase⟩ := t
        rcases phase with _ | _ | ⟨reload, _ | _ | _ | _⟩ | _ | _ | _
        case rebuilding.listingRoles => exact .some (h.takeRoles i duty reload answer)
        all_goals exact .none

/-- Both rebuilds are answered with clients that agree but for the tokens. -/
theorem answerClients (h : m.Alike m') (i : Nat)
    {answer answer' : Except ResolutionError (List Client)}
    (ha : answer.map (List.map Client.tokenless) = answer'.map (List.map Client.tokenless)) :
    Option.Rel Alike (m.next? (.answerClients i answer)) (m'.next? (.answerClients i answer')) := by
  unfold next?
  dsimp only
  obtain ⟨ht, ht'⟩ | ⟨t, t', ht, ht', halike⟩ := h.task_cases i
  · rw [ht, ht']
    exact .none
  · rw [ht, ht']
    cases halike with
    | loaded _ => exact .none
    | same =>
        obtain ⟨duty, phase⟩ := t
        rcases phase with _ | _ | ⟨reload, _ | _ | resolver | _⟩ | _ | _ | _
        case rebuilding.listingClients => exact .some (h.takeClients i duty reload resolver ha)
        all_goals exact .none

end Alike

end Machine

end DelegatedScopes
