import DelegatedScopes.Proofs.Service.Publication

/-!
# The service — the first load

Before its first load a service has calls around it and nothing else: setups, of which one at a
time goes ahead, and rebuilds that are refused.  A setup that fails leaves the service as it was.
The first that succeeds publishes both snapshots and starts the worker, with a listener if it was
given a channel.  From then on setups do nothing.

* `Machine.Pristine`, `Machine.Running`: before the first load, and after it.
* `Machine.Pristine.next`, `Machine.Running.next`: there is nothing in between, and no way back.
* `Machine.staff_of_next?`: the service starts tasks with its first load only.
* `History.launched_or_not`: the first load is the setup that takes effect.
-/

namespace DelegatedScopes

/-! ### Tasks before and after the first load -/

namespace Task

/-- Whether a task can be there before the first load: a setup that goes on or has failed, or a
rebuild that has made no move or was refused. -/
def isEarly (t : Task) : Bool :=
  match t.duty, t.phase with
  | .setup _, .fresh | .setup _, .atSetupLock | .setup _, .rebuilding _ _ => true
  | .setup _, .ended (.error _) => true
  | .rebuildNow, .fresh | .rebuildNow, .ended (.error .notReady) => true
  | _, _ => false

/-- Whether a task can be there after the first load: no setup goes ahead any more. -/
def isLate (t : Task) : Bool :=
  match t.duty, t.phase with
  | .setup _, .fresh | .setup _, .atSetupLock | .setup _, .ended _ => true
  | .setup _, _ => false
  | _, _ => true

variable {t : Task}

theorem isEarly_of_call (hcall : t.duty.isCall = true) (hfresh : t.phase = .fresh) :
    t.isEarly = true := by
  obtain ⟨duty, phase⟩ := t
  obtain rfl : phase = .fresh := hfresh
  cases duty <;> first | rfl | cases hcall

theorem isLate_of_fresh (hfresh : t.phase = .fresh) : t.isLate = true := by
  obtain ⟨duty, phase⟩ := t
  obtain rfl : phase = .fresh := hfresh
  cases duty <;> rfl

theorem isLate_of_isEarly (h : t.isEarly = true) (hup : t.isSettingUp = false) :
    t.isLate = true := by
  obtain ⟨duty, phase⟩ := t
  cases duty with
  | setup channel =>
      cases phase with
      | fresh | atSetupLock | ended => rfl
      | rebuilding => cases hup
      | parked | draining => cases h
  | _ => cases phase <;> rfl

/-- Whoever asks for the rebuild lock before the first load sets the service up. -/
theorem isSettingUp_of_isEarly (h : t.isEarly = true) (hin : t.inRebuild = true) :
    t.isSettingUp = true := by
  obtain ⟨duty, phase⟩ := t
  cases phase with
  | rebuilding reload stage => cases duty <;> first | rfl | cases h
  | _ => cases hin

theorem isCall_of_isEarly (h : t.isEarly = true) : t.duty.isCall = true := by
  obtain ⟨duty, phase⟩ := t
  cases duty <;> first | rfl | cases phase <;> cases h

end Task

namespace Machine

variable {config : Config} {m m' : Machine} {i j : Nat} {e : Event} {t : Task}
  {channel : Option Nat} {phase : Phase}

/-- Nothing has been loaded yet. -/
structure Pristine (m : Machine) : Prop where
  started : m.service.started = false
  lifecycle : m.service.lifecycle = .uninitialized
  number : ∀ k, m.service.number k = 0
  early : ∀ t ∈ m.tasks, t.isEarly = true

/-- The first load is done. -/
structure Running (m : Machine) : Prop where
  started : m.service.started = true
  lifecycle : m.service.lifecycle ≠ .uninitialized
  number : ∀ k, m.service.number k ≠ 0
  late : ∀ t ∈ m.tasks, t.isLate = true

theorem pristine_new (config : Config) (store : Store) : (new config store).Pristine where
  started := rfl
  lifecycle := rfl
  number k := by cases k <;> rfl
  early := List.forall_mem_nil _

theorem Pristine.not_running (h : m.Pristine) : ¬m.Running := fun hr =>
  Bool.false_ne_true (h.started.symm.trans hr.started)

/-- What a move makes of the tasks, as long as it starts none. -/
theorem forall_mem_of_set {P : Task → Prop} {t' : Task} (h : ∀ t ∈ m.tasks, P t)
    (htasks : m'.tasks = m.tasks.set i t') (ht' : P t') : ∀ t ∈ m'.tasks, P t := by
  rw [htasks]
  intro u hu
  rcases List.mem_or_eq_of_mem_set hu with hu | rfl
  · exact h u hu
  · exact ht'

/-- An event that moves nobody in the rebuild lock leaves the lifecycle alone. -/
theorem lifecycle_of_next? (he : m.next? e = some m')
    (hout : ∀ i t, e.mover? = some i → m.tasks[i]? = some t → t.inRebuild = false) :
    m'.service.lifecycle = m.service.lifecycle := by
  cases step_of_next? he with
  | move hmove =>
      have hrest := fun t => hout _ t hmove.mover?
      cases hmove with
      | skipSetup => exact congrArg Service.lifecycle (service_discard m _)
      | enterRebuild ht | refused ht | publish ht => cases hrest _ ht
      | @hear _ change => cases change <;> rfl
      | _ => rfl
  | request change => cases change <;> rfl
  | ask query =>
      obtain ⟨_, _, _, _, hframe, -⟩ := m.service.frame_asked query
      exact (congrArg Service.lifecycle hframe).trans rfl
  | deliver hd =>
      obtain ⟨writeBacks, hm⟩ := service_deliver hd
      exact (congrArg Service.lifecycle hm).trans rfl
  | _ => rfl

/-! ### Before the first load -/

/-- **Before the first load a move shows in its own task**, and in the count of failures; or it is
the first load. -/
theorem Pristine.move (h : m.Pristine) (hmove : Move m i e m') :
    (∃ channel, e = .move i ∧ m.Launches i channel m') ∨
      ∃ t', m'.tasks = m.tasks.set i t' ∧ t'.isEarly = true ∧
        (m'.service = m.service ∨ m'.service = m.service.giveUp) := by
  have hearly : ∀ {t}, m.tasks[i]? = some t → t.isEarly = true := fun ht =>
    h.early _ (List.mem_of_getElem? ht)
  have hstarted := h.started
  -- whoever rebuilds now sets the service up
  have hsetup : ∀ {duty reload stage}, m.tasks[i]? = some ⟨duty, .rebuilding reload stage⟩ →
      ∃ channel, duty = .setup channel := by
    intro duty reload stage ht
    have ht' := hearly ht
    cases duty with
    | setup channel => exact ⟨channel, rfl⟩
    | _ => cases ht'
  cases hmove with
  | askSetup ht => exact Or.inr ⟨_, tasks_setPhase ht _, rfl, Or.inl rfl⟩
  | askRebuild _ hs | skipSetup _ _ hs => rw [hstarted] at hs; cases hs
  | notReady ht => exact Or.inr ⟨_, tasks_setPhase ht _, rfl, Or.inl rfl⟩
  | enterSetup ht => exact Or.inr ⟨_, tasks_setPhase ht _, rfl, Or.inl rfl⟩
  | @enterRebuild _ reload ht =>
      obtain ⟨channel, rfl⟩ := hsetup ht
      refine Or.inr ⟨⟨.setup channel, .rebuilding reload reload.firstStage⟩,
        tasks_enterRebuild ht _, rfl, Or.inl ?_⟩
      rw [service_enterRebuild, Service.beginRebuild, if_pos h.lifecycle]
  | @refused _ _ _ _ cause ht =>
      obtain ⟨channel, rfl⟩ := hsetup ht
      refine Or.inr ⟨⟨.setup channel, .ended (.error cause)⟩, ?_, rfl,
        Or.inr (service_failRebuild m i _ cause)⟩
      exact (tasks_leaveRebuild (m := m.mapService Service.giveUp) ht (.error cause)).trans
        (List.append_nil _)
  | @rolesRead _ reload _ resolver ht =>
      obtain ⟨channel, rfl⟩ := hsetup ht
      exact Or.inr ⟨⟨.setup channel, .rebuilding reload (reload.afterRoles (some resolver))⟩,
        tasks_setPhase ht _, rfl, Or.inl rfl⟩
  | clientsRead ht =>
      obtain ⟨channel, rfl⟩ := hsetup ht
      exact Or.inr ⟨_, tasks_setPhase ht _, rfl, Or.inl rfl⟩
  | publish ht =>
      obtain ⟨channel, rfl⟩ := hsetup ht
      exact Or.inl ⟨channel, rfl, _, _, _, ht, rfl⟩
  | parkWorker ht | parkListener ht | wake ht | drain ht | park ht | hear ht | endListening ht =>
      cases hearly ht

/-- **Nothing is loaded by any event but the first load.** -/
theorem Pristine.next (h : m.Pristine) (he : m.next? e = some m') :
    m'.Pristine ∨ ∃ i channel, e = .move i ∧ m.Launches i channel m' := by
  rcases turn_of_next? he with ⟨i, t, t', more, hi, -⟩ | ⟨hi, more, hun⟩
  · rcases h.move (move_of_mover? he hi) with hlaunch | ⟨t', htasks, ht', hservice⟩
    · exact Or.inr ⟨i, hlaunch⟩
    · refine Or.inl ?_
      have hearly := forall_mem_of_set h.early htasks ht'
      rcases hservice with hservice | hservice
      · exact ⟨hservice ▸ h.started, hservice ▸ h.lifecycle, hservice ▸ h.number, hearly⟩
      · refine ⟨?_, ?_, fun k => ?_, hearly⟩ <;> rw [hservice]
        · exact h.started
        · exact if_pos h.lifecycle
        · exact (by cases k <;> rfl : m.service.giveUp.number k = _).trans (h.number k)
  · have hnobody : ∀ i, e.mover? ≠ some i := fun i hm => by rw [hi] at hm; cases hm
    have hsame := sameSnapshots_of_next? he fun i _ hm => absurd hm (hnobody i)
    refine Or.inl ⟨?_, ?_, fun k => ?_, fun u hu => ?_⟩
    · rcases started_of_next? he with hs | ⟨i, _, hm, -⟩
      · rw [hs, h.started]
      · exact absurd hm (hnobody i)
    · rw [lifecycle_of_next? he fun i _ hm => absurd hm (hnobody i), h.lifecycle]
    · rw [← h.number k]
      cases k
      · exact congrArg Resolver.generation hsame.resolver
      · exact congrArg ClientTable.epoch hsame.table
    · rw [hun.tasks] at hu
      rcases List.mem_append.1 hu with hu | hu
      · exact h.early u hu
      · exact Task.isEarly_of_call (hun.fresh u hu).2 (hun.fresh u hu).1

/-- **The first load** gives both snapshots their first number, and leaves alone what was asked
for. -/
theorem Launches.running (h : m.Launches i channel m') (hp : m.Pristine) (hl : m.Locked)
    (hf : m.Fitting) :
    m'.Running ∧ (∀ k, m'.service.number k = 1) ∧ m'.service.flags = m.service.flags := by
  have htasks := h.tasks
  have hup := fun t => h.not_settingUp (t := t) hl
  obtain ⟨reload, resolver, clients, ht, rfl⟩ := h
  obtain ⟨hfits, hall⟩ := hf _ (List.mem_of_getElem? ht)
  obtain rfl := hall channel rfl
  have hservice := service_leaveRebuild_ok (m.mapService (·.publish resolver clients)) i
    (.setup channel)
  have hnew : m.service.Replaced resolver clients
      ((m.mapService (·.publish resolver clients)).leaveRebuild i (.setup channel)
        (.ok ())).service := by
    rw [hservice]
    exact m.service.replaced_publish resolver clients _
  have hnumber : ∀ k, ((m.mapService (·.publish resolver clients)).leaveRebuild i (.setup channel)
      (.ok ())).service.number k = 1 := fun k => by
    rw [hnew.number_eq ((Stage.has_of_fits hfits k).trans (by cases k <;> rfl)), hp.number k]
  refine ⟨⟨by rw [hservice]; exact Bool.or_true _, by rw [hservice]; simp [mapService,
    Service.publish], fun k => by rw [hnumber k]; exact Nat.one_ne_zero, fun u hu => ?_⟩, hnumber,
    hnew.flags_eq⟩
  have hlate := hup u hu
  rw [htasks] at hu
  rcases List.mem_append.1 hu with hu | hu
  · rcases List.mem_or_eq_of_mem_set hu with hu | rfl
    · exact Task.isLate_of_isEarly (hp.early u hu) hlate
    · rfl
  · rcases List.mem_cons.1 hu with rfl | hu
    · rfl
    · obtain ⟨c, -, rfl⟩ := List.mem_map.1 hu
      rfl

theorem Launches.not_pristine (h : m.Launches i channel m') : ¬m'.Pristine := by
  intro hp
  obtain ⟨_, _, hservice⟩ := h.service
  have hs := hp.started
  rw [hservice] at hs
  cases hs

/-! ### After the first load -/

/-- **A setup that comes after the first load does nothing**: it waits for its turn, and ends. -/
theorem Running.move_setup (h : m.Running) (ht : m.tasks[i]? = some ⟨.setup channel, phase⟩)
    (hmove : Move m i e m') :
    m'.service = m.service ∧ ∃ phase', m'.tasks = m.tasks.set i ⟨.setup channel, phase'⟩ ∧
      (phase' = .atSetupLock ∨ phase' = .ended (.ok ())) := by
  have hlate := h.late _ (List.mem_of_getElem? ht)
  have htask : ∀ {duty phase'}, m.tasks[i]? = some ⟨duty, phase'⟩ →
      duty = .setup channel ∧ phase' = phase := by
    intro duty phase' h'
    cases ht.symm.trans h'
    exact ⟨rfl, rfl⟩
  cases hmove with
  | askSetup h' => exact ⟨rfl, _, tasks_setPhase ht _, Or.inl rfl⟩
  | @skipSetup other h' =>
      refine ⟨service_discard m _, _, ?_, Or.inr rfl⟩
      rw [← tasks_discard m other] at ht ⊢
      exact tasks_setPhase ht _
  | enterSetup _ _ hs => rw [h.started] at hs; cases hs
  | enterRebuild h' | refused h' | rolesRead h' | clientsRead h' | publish h' =>
      obtain ⟨rfl, rfl⟩ := htask h'
      cases hlate
  | _ h' => cases (htask h').1

/-- What is replaced has a number from then on. -/
theorem number_ne_zero_of_replaced {s s' : Service} {resolver : Option Resolver}
    {clients : Option (List Client)} (h : s.Replaced resolver clients s') {k : Change}
    (hk : s.number k ≠ 0) : s'.number k ≠ 0 := by
  cases hhas : (Stage.loaded resolver clients).has k with
  | false => rwa [(h.sameSnapshot hhas).number_eq]
  | true =>
      rw [h.number_eq hhas]
      exact Nat.succ_ne_zero _

/-- A service that has loaded its snapshots has some from then on. -/
theorem loaded_of_op {s s' : Service} (h : s.Op s') (hready : s.lifecycle ≠ .uninitialized)
    (hnumber : ∀ k, s.number k ≠ 0) :
    s'.lifecycle ≠ .uninitialized ∧ ∀ k, s'.number k ≠ 0 := by
  have hkept : s'.resolver = s.resolver → s'.table = s.table → ∀ k, s'.number k ≠ 0 := by
    intro hresolver htable k
    have hsame : s.SameSnapshot s' k := by cases k <;> assumption
    exact hsame.number_eq.trans_ne (hnumber k)
  cases h with
  | asked query =>
      obtain ⟨_, _, _, _, hframe, -⟩ := s.frame_asked query
      rw [hframe] at hkept ⊢
      exact ⟨hready, hkept rfl rfl⟩
  | request change => cases change <;> exact ⟨hready, hkept rfl rfl⟩
  | beginRebuild =>
      have hbegin : s.beginRebuild = { s with lifecycle := .rebuilding } := if_neg hready
      rw [hbegin] at hkept ⊢
      exact ⟨by simp, hkept rfl rfl⟩
  | giveUp =>
      have hback : s.giveUp.lifecycle = .ready := if_neg hready
      exact ⟨by simp [hback], hkept rfl rfl⟩
  | publish resolver clients started =>
      have hnew := s.replaced_publish resolver clients started
      exact ⟨by simp [Service.publish], fun k => number_ne_zero_of_replaced hnew (hnumber k)⟩
  | tidy => exact ⟨hready, hkept rfl rfl⟩

/-- Whoever moves after the first load does not go ahead with a setup. -/
theorem Running.late_move {t' : Task} {more : List Task} (h : m.Running) (hmove : Move m i e m')
    (hturn : Turn m i t t' more m') : t'.isLate = true := by
  obtain ⟨duty, phase⟩ := t
  obtain ⟨duty', phase'⟩ := t'
  obtain rfl : duty' = duty := hturn.duty
  cases duty' with
  | setup channel =>
      obtain ⟨-, phase'', htasks, hphase⟩ := h.move_setup hturn.before hmove
      have hafter := hturn.after
      rw [htasks, List.getElem?_set_self (List.getElem?_eq_some_iff.1 hturn.before).1] at hafter
      cases hafter
      rcases hphase with rfl | rfl <;> rfl
  | _ => cases phase' <;> rfl

/-- **There is no way back** from the first load. -/
theorem Running.next (h : m.Running) (he : m.next? e = some m') : m'.Running := by
  obtain ⟨hlifecycle, hnumber⟩ := loaded_of_op (op_of_next? he) h.lifecycle h.number
  refine ⟨?_, hlifecycle, hnumber, fun u hu => ?_⟩
  · rcases started_of_next? he with hs | ⟨i, channel, -, hlaunch⟩
    · rw [hs, h.started]
    · obtain ⟨_, _, hservice⟩ := hlaunch.service
      rw [hservice]
  · rcases turn_of_next? he with ⟨i, t, t', more, hi, hturn, -⟩ | ⟨-, more, hun⟩
    · rw [hturn.tasks] at hu
      rcases List.mem_append.1 hu with hu | hu
      · rcases List.mem_or_eq_of_mem_set hu with hu | rfl
        · exact h.late u hu
        · exact h.late_move (move_of_mover? he hi) hturn
      · exact Task.isLate_of_fresh (hturn.fresh u hu)
    · rw [hun.tasks] at hu
      rcases List.mem_append.1 hu with hu | hu
      · exact h.late u hu
      · exact Task.isLate_of_fresh (hun.fresh u hu).1

/-- **The first load is done, or nothing has been loaded.** -/
theorem Reachable.pristine_or_running (h : Reachable config m) : m.Pristine ∨ m.Running := by
  suffices (m.Pristine ∨ m.Running) ∧ m.Locked ∧ m.Fitting from this.1
  refine Reachable.keeps (I := fun m => (m.Pristine ∨ m.Running) ∧ m.Locked ∧ m.Fitting)
    (fun he ha => ?_) (fun store => ⟨Or.inl (pristine_new config store), locked_new config store,
      List.forall_mem_nil _⟩) h
  obtain ⟨hp | hr, hl, hf⟩ := ha
  · refine ⟨?_, hl.next he, hf.next he⟩
    exact (hp.next he).imp_right fun ⟨_, _, _, hlaunch⟩ => (hlaunch.running hp hl hf).1
  · exact ⟨Or.inr (hr.next he), hl.next he, hf.next he⟩

/-! ### Whom a service starts -/

/-- What the tasks are for that are no calls: the service has started them itself. -/
def staff (m : Machine) : List Duty := (m.tasks.map Task.duty).filter fun duty => !duty.isCall

theorem Pristine.staff_eq (h : m.Pristine) : m.staff = [] := by
  refine List.filter_eq_nil_iff.2 fun duty hd => ?_
  obtain ⟨t, ht, rfl⟩ := List.mem_map.1 hd
  simp [Task.isCall_of_isEarly (h.early t ht)]

/-- A task that goes on keeps its duty. -/
theorem staff_set {t' : Task} {more : List Task} (ht : m.tasks[i]? = some t)
    (hduty : t'.duty = t.duty) (htasks : m'.tasks = m.tasks.set i t' ++ more) :
    m'.staff = m.staff ++ (more.map Task.duty).filter fun duty => !duty.isCall := by
  have hset : (m.tasks.set i t').map Task.duty = m.tasks.map Task.duty := by
    obtain ⟨hlt, rfl⟩ := List.getElem?_eq_some_iff.1 ht
    rw [List.map_set, hduty, ← List.getElem_map Task.duty, List.set_getElem_self]
    simpa using hlt
  rw [staff, htasks, List.map_append, List.filter_append, hset]
  rfl

theorem Launches.staff_eq (h : m.Launches i channel m') :
    m'.staff = m.staff ++ .work :: channel.toList.map .listen := by
  have htasks := h.tasks
  obtain ⟨reload, resolver, clients, ht, -⟩ := h
  have hduty : Task.duty ⟨.setup channel, .ended (.ok ())⟩ = .setup channel := rfl
  rw [staff_set ht hduty htasks]
  cases channel <;> rfl

/-- **The service starts tasks with its first load only.** -/
theorem staff_of_next? (he : m.next? e = some m') :
    m'.staff = m.staff ∨ ∃ i channel, e.mover? = some i ∧ m.Launches i channel m' := by
  rcases turn_of_next? he with ⟨i, t, t', more, hi, hturn, rfl | ⟨channel, hlaunch, -⟩⟩ |
    ⟨-, more, hun⟩
  · exact Or.inl ((staff_set hturn.before hturn.duty hturn.tasks).trans (List.append_nil _))
  · exact Or.inr ⟨i, channel, hi, hlaunch⟩
  · refine Or.inl ?_
    have hcalls : (more.map Task.duty).filter (fun duty => !duty.isCall) = [] := by
      refine List.filter_eq_nil_iff.2 fun duty hd => ?_
      obtain ⟨t, ht, rfl⟩ := List.mem_map.1 hd
      simp [(hun.fresh t ht).2]
    rw [staff, hun.tasks, List.map_append, List.filter_append, hcalls, List.append_nil]
    rfl

/-! ### Setups that fail -/

/-- A setup fails when its rebuild does. -/
theorem failRebuild_of_ended {cause : ResolutionError} (hmove : Move m i e m')
    (hend : m'.tasks[i]? = some ⟨.setup channel, .ended (.error cause)⟩) :
    (∃ reload stage, m.tasks[i]? = some ⟨.setup channel, .rebuilding reload stage⟩) ∧
      m' = m.failRebuild i (.setup channel) cause := by
  cases hmove with
  | @skipSetup other h =>
      cases (getElem?_setPhase ((tasks_discard m other).symm ▸ h) _).symm.trans hend
  | enterRebuild h =>
      rw [tasks_enterRebuild h, List.getElem?_set_self (List.getElem?_eq_some_iff.1 h).1] at hend
      cases hend
  | @refused duty reload stage _ other h =>
      have hend' := getElem?_leaveRebuild (m := m.mapService Service.giveUp) h (.error other)
      obtain rfl : duty = .setup channel :=
        congrArg Task.duty (Option.some.inj (hend'.symm.trans hend))
      cases hend'.symm.trans hend
      exact ⟨⟨reload, stage, h⟩, rfl⟩
  | @publish duty reload resolver clients h =>
      have hend' := getElem?_leaveRebuild (m := m.mapService (·.publish resolver clients)) h
        (.ok ())
      cases duty <;> cases hend'.symm.trans hend
  | hear h => cases h.symm.trans hend
  | wake h | drain h => cases (getElem?_setPhase (m := m.mapService _) h _).symm.trans hend
  | _ h => cases (getElem?_setPhase h _).symm.trans hend

/-- **A setup that fails leaves everything as it was**, but for the count of failures. -/
theorem Reachable.failed {cause : ResolutionError} (h : Reachable config m) (hmove : Move m i e m')
    (hend : m'.tasks[i]? = some ⟨.setup channel, .ended (.error cause)⟩) :
    m.Pristine ∧ m'.tasks = m.tasks.set i ⟨.setup channel, .ended (.error cause)⟩ ∧
      m'.service = { m.service with
        counters := { m.service.counters with
          rebuildFailures := m.service.counters.rebuildFailures + 1 } } := by
  obtain ⟨⟨reload, stage, ht⟩, rfl⟩ := failRebuild_of_ended hmove hend
  rcases h.pristine_or_running with hp | hr
  · refine ⟨hp, ?_, ?_⟩
    · exact (tasks_leaveRebuild (m := m.mapService Service.giveUp) ht (.error cause)).trans
        (List.append_nil _)
    · rw [service_failRebuild, Service.giveUp, if_pos hp.lifecycle, ← hp.lifecycle]
      rfl
  · cases hr.late _ (List.mem_of_getElem? ht)

/-- **Until the first load a request stays as it is**: nobody looks at it. -/
theorem Pristine.flags_of_next? (h : m.Pristine) (he : m.next? e = some m') (h' : m'.Pristine) :
    (∃ k, e = .request k ∧ m'.service.flags = (m.service.request k).flags) ∨
      (∀ k, e ≠ .request k) ∧ m'.service.flags = m.service.flags := by
  cases step_of_next? he with
  | @move i _ _ hmove =>
      refine Or.inr ⟨fun k hk => ?_, ?_⟩
      · have hmover := hmove.mover?
        rw [hk] at hmover
        cases hmover
      · rcases h.move hmove with ⟨channel, -, hlaunch⟩ | ⟨_, -, -, hservice | hservice⟩
        · exact absurd h' hlaunch.not_pristine
        · rw [hservice]
        · rw [hservice]
          rfl
  | request k => exact Or.inl ⟨k, rfl, rfl⟩
  | ask query =>
      obtain ⟨_, _, _, _, hframe, -⟩ := m.service.frame_asked query
      exact Or.inr ⟨by simp, (congrArg Service.flags hframe).trans rfl⟩
  | deliver hd =>
      obtain ⟨writeBacks, hm⟩ := service_deliver hd
      exact Or.inr ⟨by simp, (congrArg Service.flags hm).trans rfl⟩
  | _ => exact Or.inr ⟨by simp, rfl⟩

end Machine

/-! ### Histories -/

namespace History

variable {config : Config} (h : History config) {t u i j : Nat} {e : Event} {k : Change}
  {channel other : Option Nat}

/-- At a moment a setup, with the channel it was given, takes effect. -/
def LaunchesAt (t i : Nat) (channel : Option Nat) : Prop :=
  h.events[t]? = some (.move i) ∧ (h.state t).Launches i channel (h.state (t + 1))

/-- Some setup has taken effect before a moment. -/
def Launched (t : Nat) : Prop := ∃ u < t, ∃ i channel, h.LaunchesAt u i channel

theorem launched_succ : h.Launched (t + 1) ↔ h.Launched t ∨ ∃ i channel, h.LaunchesAt t i channel :=
  Nat.exists_lt_succ_right

variable {h}

theorem Launched.mono (ht : h.Launched t) (htu : t ≤ u) : h.Launched u := by
  obtain ⟨v, hv, hlaunch⟩ := ht
  exact ⟨v, Nat.lt_of_lt_of_le hv htu, hlaunch⟩

theorem LaunchesAt.not_running (ht : h.LaunchesAt t i channel) : ¬(h.state t).Running := by
  intro hr
  obtain ⟨-, reload, resolver, clients, htask, -⟩ := ht
  cases hr.late _ (List.mem_of_getElem? htask)

theorem LaunchesAt.pristine (ht : h.LaunchesAt t i channel) : (h.state t).Pristine :=
  (h.reachable t).pristine_or_running.resolve_right ht.not_running

variable (h) in
/-- **The first load is the setup that takes effect.** -/
theorem launched_or_not (t : Nat) :
    h.Launched t ∧ (h.state t).Running ∨ ¬h.Launched t ∧ (h.state t).Pristine := by
  induction t with
  | zero =>
      have hfirst : (h.state 0).Pristine := Machine.pristine_new config h.store
      refine Or.inr ⟨fun hl => ?_, hfirst⟩
      obtain ⟨u, hu, -⟩ := hl
      exact absurd hu (Nat.not_lt_zero u)
  | succ t ih =>
      rw [h.launched_succ]
      rcases ih with ⟨hl, hr⟩ | ⟨hl, hp⟩
      · refine Or.inl ⟨Or.inl hl, ?_⟩
        rcases h.step t with ⟨e, -, hnext⟩ | ⟨-, hsame⟩
        · exact hr.next hnext
        · rwa [hsame]
      · rcases h.step t with ⟨e, he, hnext⟩ | ⟨hnone, hsame⟩
        · rcases hp.next hnext with hp' | ⟨i, channel, rfl, hlaunch⟩
          · refine Or.inr ⟨fun hor => ?_, hp'⟩
            rcases hor with hor | ⟨i, channel, -, hlaunch⟩
            · exact hl hor
            · exact hlaunch.not_pristine hp'
          · refine Or.inl ⟨Or.inr ⟨i, channel, he, hlaunch⟩, ?_⟩
            exact (hlaunch.running hp (h.reachable t).locked (h.reachable t).fitting).1
        · refine Or.inr ⟨fun hor => ?_, hsame ▸ hp⟩
          rcases hor with hor | ⟨i, channel, he, -⟩
          · exact hl hor
          · rw [hnone] at he
            cases he

theorem running_of_launched (ht : h.Launched t) : (h.state t).Running :=
  (h.launched_or_not t).elim And.right fun hno => absurd ht hno.1

theorem pristine_of_not_launched (ht : ¬h.Launched t) : (h.state t).Pristine :=
  (h.launched_or_not t).elim (fun hl => absurd hl.1 ht) And.right

end History
end DelegatedScopes
