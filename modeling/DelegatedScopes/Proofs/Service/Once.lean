import DelegatedScopes.Proofs.Service.Start

/-!
# The service — setting up once

Setups wait for each other at a lock of their own, and whoever has its turn looks first whether the
service was loaded already.  So one of them takes effect, however many are called and however long
the sources keep them waiting.  The others fail before it, or do nothing after it.

* `Machine.exists_run_setup`: whatever has happened, a setup that has not ended can still succeed.
* `History.flags_before`: requests that come in before the first load are kept for the worker.
* `History.setup_takes_effect_once`: what every history of a service has of setups.
-/

namespace DelegatedScopes

namespace Machine

variable {config : Config} {m m' : Machine} {i : Nat} {e : Event} {t : Task}
  {channel : Option Nat} {phase : Phase}

/-! ### Setups that succeed -/

/-- Whoever does not list goes on by itself. -/
theorem next?_move (ht : m.tasks[i]? = some t) (hl : t.isListing = false) :
    m.next? (.move i) = m.move? i := by
  rw [next?, ht, Option.any_some, hl]
  rfl

/-- Before the first load the setup that goes ahead need not wait for any other rebuild. -/
theorem Pristine.head_rebuildQueue (h : m.Pristine) (hl : m.Locked) (ht : m.tasks[i]? = some t)
    (hup : t.isSettingUp = true) : m.rebuildQueue.head? = some i := by
  have hin : t.inRebuild = true := by
    obtain ⟨duty, phase⟩ := t
    cases duty with
    | setup channel => cases phase <;> first | rfl | cases hup
    | _ => cases hup
  have hmem : i ∈ m.rebuildQueue := (hl.rebuild.mem i).2 (by rw [ht]; exact hin)
  cases hq : m.rebuildQueue with
  | nil => rw [hq] at hmem; cases hmem
  | cons j rest =>
      have hj := (hl.rebuild.mem j).1 (hq ▸ List.mem_cons_self)
      cases hu : m.tasks[j]? with
      | none => rw [hu] at hj; cases hj
      | some u =>
          rw [hu] at hj
          have hup' := Task.isSettingUp_of_isEarly (h.early u (List.mem_of_getElem? hu)) hj
          rw [hl.setup.unique ht hup hu hup']
          rfl

/-- The setup that holds its lock has ended well after a move of its own, or is nearer to its
end. -/
def Advances (m : Machine) (i : Nat) (channel : Option Nat) (phase : Phase) (m' : Machine) : Prop :=
  ∃ phase', m'.tasks[i]? = some ⟨.setup channel, phase'⟩ ∧
    (phase' = .ended (.ok ()) ∧ m'.setupQueue = m.setupQueue.tail ∨
      Task.workLeft ⟨.setup channel, phase'⟩ < Task.workLeft ⟨.setup channel, phase⟩ ∧
        m'.setupQueue = m.setupQueue)

/-- Nothing keeps the rebuild of a setup from going on, once the sources answer. -/
theorem exists_rebuild_step {stage : Stage} {reload : Reload} (hr : Reachable config m)
    (ht : m.tasks[i]? = some ⟨.setup channel, .rebuilding reload stage⟩) :
    ∃ e m', m.next? e = some m' ∧ e.mover? = some i ∧
      m.Advances i channel (.rebuilding reload stage) m' := by
  have hp : m.Pristine := hr.pristine_or_running.resolve_right fun hrun => by
    cases hrun.late _ (List.mem_of_getElem? ht)
  obtain ⟨-, hall⟩ := hr.fitting _ (List.mem_of_getElem? ht)
  obtain rfl := hall channel rfl
  cases stage with
  | queued =>
      have hhead := hp.head_rebuildQueue hr.locked ht rfl
      refine ⟨.move i, m.enterRebuild i .everything, ?_, rfl, _,
        getElem?_setPhase (m := { m.mapService Service.beginRebuild with
          sources := m.sources.arrive }) ht _, Or.inr ⟨Nat.lt_succ_self _, rfl⟩⟩
      simp [next?_move ht rfl, move?, ht, advance?, hhead]
  | listingRoles =>
      obtain ⟨r, hbuild⟩ : ∃ r, Resolver.build [] m.service.config.maxSteps = .ok r := ⟨_, rfl⟩
      refine ⟨.answerRoles i (.ok []), m.rolesLoaded i .everything (some r), ?_, rfl, _,
        getElem?_setPhase ht _, Or.inr ⟨Nat.lt_succ_self _, rfl⟩⟩
      simp [next?, ht, takeRoles, hbuild]
  | listingClients resolver =>
      refine ⟨.answerClients i (.ok []), _, by rw [next?, ht]; rfl, rfl, _,
        getElem?_setPhase ht _, Or.inr ⟨Nat.lt_succ_self _, rfl⟩⟩
  | loaded resolver clients =>
      refine ⟨.move i, _, by simp [next?_move ht rfl, move?, ht, advance?], rfl, _,
        getElem?_leaveRebuild (m := m.mapService (·.publish resolver clients)) ht (.ok ()),
        Or.inl ⟨rfl, ?_⟩⟩
      rw [setupQueue_leaveRebuild]
      rfl

/-- **Whoever holds the setup lock can go on.** -/
theorem exists_setup_step (hr : Reachable config m) (hi : m.setupQueue.head? = some i)
    (ht : m.tasks[i]? = some ⟨.setup channel, phase⟩) :
    ∃ e m', m.next? e = some m' ∧ e.mover? = some i ∧ m.Advances i channel phase m' := by
  have hin := (hr.locked.setup.mem i).1 (List.mem_of_head? hi)
  rw [ht] at hin
  cases phase with
  | atSetupLock =>
      by_cases hs : m.service.started = true
      · refine ⟨.move i, (m.discard channel).leaveSetup i (.ok ()), ?_, rfl, _,
          getElem?_setPhase ((tasks_discard m channel).symm ▸ ht) _, Or.inl ⟨rfl, ?_⟩⟩
        · simp [next?_move ht rfl, move?, ht, hi, enterSetup, hs]
        · cases channel <;> rfl
      · refine ⟨.move i, m.queueRebuild i .everything, ?_, rfl, _, getElem?_setPhase ht _,
          Or.inr ⟨Nat.lt_succ_self _, rfl⟩⟩
        simp [next?_move ht rfl, move?, ht, hi, enterSetup, hs]
  | rebuilding reload stage => exact exists_rebuild_step hr ht
  | _ => cases hin

/-- Whoever holds the setup lock can come to its end, and the next one has its turn. -/
theorem exists_run_head (hr : Reachable config m) (hi : m.setupQueue.head? = some i)
    (ht : m.tasks[i]? = some ⟨.setup channel, phase⟩) :
    ∃ events m', Run anything m events m' ∧ m'.setupQueue = m.setupQueue.tail ∧
      m'.tasks[i]? = some ⟨.setup channel, .ended (.ok ())⟩ ∧
      ∀ j u, j ≠ i → m.tasks[j]? = some u → m'.tasks[j]? = some u := by
  induction hn : Task.workLeft ⟨.setup channel, phase⟩ using Nat.strongRecOn
    generalizing m phase with
  | ind n ih =>
      obtain ⟨e, a, he, hmover, phase', ha, ⟨rfl, hqueue⟩ | ⟨hlt, hqueue⟩⟩ :=
        exists_setup_step hr hi ht
      · refine ⟨[e], a, .cons he trivial .start, hqueue, ha, fun j u hj hu => ?_⟩
        exact kept_of_next? he (fun h => hj (Option.some.inj (h.symm.trans hmover))) hu
      · obtain ⟨events, m', hrun, hqueue', hend, hkept⟩ :=
          ih _ (hn ▸ hlt) (hr.next he) (hqueue ▸ hi) ha rfl
        refine ⟨e :: events, m', .cons he trivial hrun, hqueue ▸ hqueue', hend, fun j u hj hu => ?_⟩
        exact hkept j u hj
          (kept_of_next? he (fun h => hj (Option.some.inj (h.symm.trans hmover))) hu)

/-- Whoever waits for the setup lock can come to its end, after those before it. -/
theorem exists_run_queued (hr : Reachable config m) (hi : i ∈ m.setupQueue)
    (ht : m.tasks[i]? = some ⟨.setup channel, phase⟩) :
    ∃ events m', Run anything m events m' ∧
      m'.tasks[i]? = some ⟨.setup channel, .ended (.ok ())⟩ := by
  induction hq : m.setupQueue generalizing m with
  | nil => rw [hq] at hi; cases hi
  | cons k rest ih =>
      have hk : m.setupQueue.head? = some k := by rw [hq]; rfl
      by_cases hki : k = i
      · subst hki
        obtain ⟨events, m', hrun, -, hend, -⟩ := exists_run_head hr hk ht
        exact ⟨events, m', hrun, hend⟩
      · have hin := (hr.locked.setup.mem k).1 (List.mem_of_head? hk)
        obtain ⟨⟨duty, phase'⟩, hu⟩ : ∃ u, m.tasks[k]? = some u := by
          cases hu : m.tasks[k]? with
          | none => rw [hu] at hin; cases hin
          | some u => exact ⟨u, rfl⟩
        rw [hu] at hin
        cases duty with
        | setup other =>
            obtain ⟨events, a, hrun, hqueue, -, hkept⟩ := exists_run_head hr hk hu
            rw [hq, List.tail_cons] at hqueue
            have hmem : i ∈ a.setupQueue := by
              rw [hq] at hi
              exact hqueue ▸ (List.mem_cons.1 hi).resolve_left (Ne.symm hki)
            obtain ⟨events', m', hrun', hend⟩ :=
              ih (hr.run hrun) hmem (hkept i _ (Ne.symm hki) ht) hqueue
            exact ⟨events ++ events', m', hrun.trans hrun', hend⟩
        | _ => cases phase' <;> cases hin

/-- **A setup that has not ended can still succeed**, whatever has happened: those before it come to
their end, and then it has its turn. -/
theorem exists_run_setup (hr : Reachable config m) (ht : m.tasks[i]? = some ⟨.setup channel, phase⟩)
    (hend : ∀ result, phase ≠ .ended result) :
    ∃ events m', Run anything m events m' ∧
      m'.tasks[i]? = some ⟨.setup channel, .ended (.ok ())⟩ := by
  have hlate : m.Running → Task.isLate ⟨.setup channel, phase⟩ = true := fun h =>
    h.late _ (List.mem_of_getElem? ht)
  have hearly : m.Pristine → Task.isEarly ⟨.setup channel, phase⟩ = true := fun h =>
    h.early _ (List.mem_of_getElem? ht)
  have hmem : ∀ {m phase}, Reachable config m → m.tasks[i]? = some ⟨.setup channel, phase⟩ →
      Task.inSetup ⟨.setup channel, phase⟩ = true → i ∈ m.setupQueue := fun hr ht hin =>
    (hr.locked.setup.mem i).2 (by rw [ht]; exact hin)
  cases phase with
  | fresh =>
      have he : m.next? (.move i) = some (m.queueSetup i) := by
        simp [next?_move ht rfl, move?, ht, begin]
      have hq : (m.queueSetup i).tasks[i]? = some ⟨.setup channel, .atSetupLock⟩ :=
        getElem?_setPhase ht _
      obtain ⟨events, m', hrun, hdone⟩ :=
        exists_run_queued (hr.next he) (hmem (hr.next he) hq rfl) hq
      exact ⟨_, m', .cons he trivial hrun, hdone⟩
  | atSetupLock | rebuilding => exact exists_run_queued hr (hmem hr ht rfl) ht
  | parked | draining =>
      rcases hr.pristine_or_running with h | h
      · cases hearly h
      · cases hlate h
  | ended result => exact absurd rfl (hend result)

end Machine

/-! ### Histories -/

namespace History

variable {config : Config} {h : History config} {t u i j : Nat} {channel other : Option Nat}

theorem LaunchesAt.le (ht : h.LaunchesAt t i channel) (hu : h.LaunchesAt u j other) : u ≤ t := by
  refine Nat.le_of_not_lt fun hlt => ?_
  exact hu.not_running (running_of_launched ⟨t, hlt, i, channel, ht⟩)

/-- One setup takes effect at most. -/
theorem LaunchesAt.unique (ht : h.LaunchesAt t i channel) (hu : h.LaunchesAt u j other) :
    t = u ∧ i = j ∧ channel = other := by
  obtain rfl := Nat.le_antisymm (hu.le ht) (ht.le hu)
  obtain ⟨he, _, _, _, htask, -⟩ := ht
  obtain ⟨he', _, _, _, htask', -⟩ := hu
  cases he.symm.trans he'
  cases htask.symm.trans htask'
  exact ⟨rfl, rfl, rfl⟩

/-- After the first load the service has the worker, and the listener to the channel if there is
one. -/
theorem LaunchesAt.staff_eq (ht : h.LaunchesAt t i channel) (hu : t < u) :
    (h.state u).staff = .work :: channel.toList.map .listen := by
  induction hu with
  | refl => rw [ht.2.staff_eq, ht.pristine.staff_eq, List.nil_append]
  | @step u hlt ih =>
      rcases h.step u with ⟨e, he, hnext⟩ | ⟨-, hsame⟩
      · rcases Machine.staff_of_next? hnext with hstaff | ⟨j, other, -, hlaunch⟩
        · rw [hstaff, ih]
        · obtain ⟨reload, resolver, clients, htask, -⟩ := hlaunch
          have hr := running_of_launched ⟨t, hlt, i, channel, ht⟩
          cases hr.late _ (List.mem_of_getElem? htask)
      · rw [hsame, ih]

variable (h) in
/-- **No request is forgotten before the first load**, and none is made up. -/
theorem flags_before (t : Nat) (ht : ¬h.Launched t) :
    (∀ k, (h.state t).service.asks k = true ↔ ∃ u < t, h.events[u]? = some (.request k)) ∧
      ((h.state t).service.awake = true ↔ ∃ k, (h.state t).service.asks k = true) := by
  induction t with
  | zero =>
      have hasks : ∀ k, (h.state 0).service.asks k = false := fun k => by cases k <;> rfl
      have hawake : (h.state 0).service.awake = false := rfl
      simp [hasks, hawake]
  | succ t ih =>
      have hbefore : ¬h.Launched t := fun hl => ht (h.launched_succ.2 (Or.inl hl))
      obtain ⟨hasks, hawake⟩ := ih hbefore
      simp only [Nat.exists_lt_succ_right, ← hasks]
      rcases h.step t with ⟨e, he, hnext⟩ | ⟨hnone, hsame⟩
      · rw [he]
        rcases (pristine_of_not_launched hbefore).flags_of_next? hnext (pristine_of_not_launched ht)
          with ⟨k, rfl, hflags⟩ | ⟨hother, hflags⟩
        · refine ⟨fun k' => ?_, fun _ => ⟨k, ?_⟩, fun _ => ?_⟩
          · rw [Service.asks_congr hflags, Service.asks_request, Bool.or_eq_true,
              decide_eq_true_iff]
            exact or_congr_right ⟨fun hk => by rw [hk], fun hk => by cases hk; rfl⟩
          · rw [Service.asks_congr hflags, Service.asks_request]
            simp
          · rw [Service.awake_congr hflags, Service.awake_request]
        · simp only [Service.asks_congr hflags, Service.awake_congr hflags]
          exact ⟨fun k => by simp [hother], hawake⟩
      · rw [hsame, hnone]
        exact ⟨fun k => by simp, hawake⟩

/-- Until the first load a rebuild on demand is refused, and nothing else comes of it. -/
theorem refused_before {phase : Phase} (ht : ¬h.Launched t)
    (hi : (h.state t).tasks[i]? = some ⟨.rebuildNow, phase⟩) :
    phase = .ended (.error .notReady) ∨ phase = .fresh ∧
      (h.state t).next? (.move i) =
        some ((h.state t).setPhase i (.ended (.error .notReady))) := by
  have hp := pristine_of_not_launched ht
  have hearly := hp.early _ (List.mem_of_getElem? hi)
  cases phase with
  | fresh =>
      refine Or.inr ⟨rfl, ?_⟩
      simp [Machine.next?_move hi rfl, Machine.move?, hi, Machine.begin, hp.started]
  | ended result =>
      refine Or.inl ?_
      cases result with
      | ok _ => cases hearly
      | error cause => cases cause <;> first | rfl | cases hearly
  | _ => cases hearly

/-- **Setup takes effect exactly once.**  In every history of a service, with any number of setups,
with or without channels, with rebuilds on demand, requests and outages, and with setups that wait
for a source as long as they like:

* one setup takes effect at most, and at one moment;
* the setup that does ends well and gives both snapshots their first number.  It starts the worker
  and, if it was given a channel, the listener to that channel, and these are the only tasks that
  the service ever starts.  What was asked for until then is still asked for;
* every move of a setup after that leaves the service as it is and starts no task.  The setup goes
  to the lock, or ends well;
* until then the service is uninitialized, nothing is published, no task was started and no setup
  has ended well.  The service is asked for what was requested so far, and the worker will wake up
  for it.  A rebuild on demand is refused, since the service is not ready, with no other effect;
* a setup that fails does so before that, and leaves the service as it is, but for the count of
  failures, and every other task too;
* a setup that has not ended can still end well. -/
theorem setup_takes_effect_once (h : History config) :
    (∀ t i channel u j other, h.LaunchesAt t i channel → h.LaunchesAt u j other →
      t = u ∧ i = j ∧ channel = other) ∧
    (∀ t i channel, h.LaunchesAt t i channel →
      (h.state (t + 1)).tasks[i]? = some ⟨.setup channel, .ended (.ok ())⟩ ∧
      (∀ k, (h.state (t + 1)).service.number k = 1) ∧
      (h.state (t + 1)).service.flags = (h.state t).service.flags ∧
      ∀ u, t < u → (h.state u).staff = .work :: channel.toList.map .listen) ∧
    (∀ (t i : Nat) (e : Event) channel phase, h.Launched t → h.events[t]? = some e →
      e.mover? = some i → (h.state t).tasks[i]? = some ⟨.setup channel, phase⟩ →
      (h.state (t + 1)).service = (h.state t).service ∧
      ∃ phase', (h.state (t + 1)).tasks = (h.state t).tasks.set i ⟨.setup channel, phase'⟩ ∧
        (phase' = .atSetupLock ∨ phase' = .ended (.ok ()))) ∧
    (∀ t, ¬h.Launched t →
      (h.state t).service.lifecycle = .uninitialized ∧
      (∀ k, (h.state t).service.number k = 0) ∧
      (h.state t).staff = [] ∧
      (∀ (i : Nat) channel, (h.state t).tasks[i]? ≠ some ⟨.setup channel, .ended (.ok ())⟩) ∧
      (∀ k, (h.state t).service.asks k = true ↔ ∃ u < t, h.events[u]? = some (.request k)) ∧
      ((h.state t).service.awake = true ↔ ∃ k, (h.state t).service.asks k = true) ∧
      ∀ (i : Nat) phase, (h.state t).tasks[i]? = some ⟨.rebuildNow, phase⟩ →
        phase = .ended (.error .notReady) ∨ phase = .fresh ∧
          (h.state t).next? (.move i) =
            some ((h.state t).setPhase i (.ended (.error .notReady)))) ∧
    (∀ (t i : Nat) (e : Event) channel cause, h.events[t]? = some e → e.mover? = some i →
      (h.state (t + 1)).tasks[i]? = some ⟨.setup channel, .ended (.error cause)⟩ →
      ¬h.Launched (t + 1) ∧
      (h.state (t + 1)).tasks =
        (h.state t).tasks.set i ⟨.setup channel, .ended (.error cause)⟩ ∧
      (h.state (t + 1)).service = { (h.state t).service with
        counters := { (h.state t).service.counters with
          rebuildFailures := (h.state t).service.counters.rebuildFailures + 1 } }) ∧
    ∀ (t i : Nat) channel phase, (h.state t).tasks[i]? = some ⟨.setup channel, phase⟩ →
      (∀ result, phase ≠ .ended result) →
      ∃ events m, Machine.Run Machine.anything (h.state t) events m ∧
        m.tasks[i]? = some ⟨.setup channel, .ended (.ok ())⟩ := by
  refine ⟨fun t i channel u j other ht hu => ht.unique hu, fun t i channel ht => ?_,
    fun t i e channel phase hl he hi ht => ?_, fun t hl => ?_,
    fun t i e channel cause he hi hend => ?_,
    fun t i channel phase ht hend => Machine.exists_run_setup (h.reachable t) ht hend⟩
  · have hr := h.reachable t
    obtain ⟨-, hnumber, hflags⟩ := ht.2.running ht.pristine hr.locked hr.fitting
    exact ⟨ht.2.ended, hnumber, hflags, fun u hu => ht.staff_eq hu⟩
  · exact (running_of_launched hl).move_setup ht (Machine.move_of_mover? (h.next he) hi)
  · have hp := pristine_of_not_launched hl
    obtain ⟨hasks, hawake⟩ := h.flags_before t hl
    refine ⟨hp.lifecycle, hp.number, hp.staff_eq, fun i channel ht => ?_, hasks, hawake,
      fun i phase => refused_before hl⟩
    cases hp.early _ (List.mem_of_getElem? ht)
  · obtain ⟨hp, htasks, hservice⟩ :=
      (h.reachable t).failed (Machine.move_of_mover? (h.next he) hi) hend
    refine ⟨fun hl => ?_, htasks, hservice⟩
    have hs := (running_of_launched hl).started
    rw [hservice] at hs
    exact absurd (hp.started.symm.trans hs) Bool.false_ne_true

/-- Two setups are called, one of them with a channel, and a rebuild on demand.  The clients change
before anything is loaded.  The first setup finds that the roles cannot be listed; the second one
takes effect, and a third comes too late. -/
def rush : List Event :=
  [.subscribe 4, .setup none, .setup (some 0), .rebuildNow, .move 0, .move 1, .request .clients,
    .move 0, .move 0, .move 2, .answerRoles 0 (.error (.sourceUnavailable [])), .move 1, .move 1,
    .answerRoles 1 (.ok []), .answerClients 1 (.ok []), .move 1, .setup none, .move 5, .move 5]

theorem setup_takes_effect_once_rush :
    ∃ h : History ⟨10, 100⟩, h.events = rush ∧
      (h.state 11).tasks[0]? = some ⟨.setup none, .ended (.error (.sourceUnavailable []))⟩ ∧
      ¬h.Launched 11 ∧ (h.state 11).service.asks .clients = true ∧
      h.LaunchesAt 15 1 (some 0) ∧ (∀ u, 15 < u → (h.state u).staff = [.work, .listen 0]) ∧
      (h.state 19).tasks[5]? = some ⟨.setup none, .ended (.ok ())⟩ ∧
      (h.state 19).service = (h.state 18).service := by
  let h : History ⟨10, 100⟩ := ⟨.ofEntries [] [], rush, rfl⟩
  obtain ⟨-, hlaunch, hlater, hbefore, hfail, -⟩ := setup_takes_effect_once h
  have hfailed : (h.state 11).tasks[0]? =
      some ⟨.setup none, .ended (.error (.sourceUnavailable []))⟩ := rfl
  have hat : h.LaunchesAt 15 1 (some 0) := ⟨rfl, _, _, _, rfl, rfl⟩
  obtain ⟨hnot, -⟩ := hfail 10 0 _ none _ rfl rfl hfailed
  obtain ⟨-, -, -, -, hasks, -⟩ := hbefore 11 hnot
  refine ⟨h, rfl, hfailed, hnot, (hasks .clients).2 ⟨6, by decide, rfl⟩, hat,
    (hlaunch 15 1 (some 0) hat).2.2.2, rfl, ?_⟩
  exact (hlater 18 5 (.move 5) none .atSetupLock ⟨15, by decide, 1, some 0, hat⟩ rfl rfl rfl).1

end History
end DelegatedScopes
