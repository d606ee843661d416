import DelegatedScopes.Proofs.Service.Rebuild

/-!
# The service — the worker

The first load starts a worker, and no later call starts another.  The worker sleeps until it is
woken, and what wakes it is kept until it has looked.  So it never sleeps through a request.

* `Machine.launches_or`: the first load, or an event that starts neither worker nor listener.
* `Machine.Reachable.staffed`: there is one worker at most, and it has been woken for what is due.
-/

namespace DelegatedScopes

/-- Whether a service has been asked to read a kind of record again. -/
def Service.asks (s : Service) : Change → Bool
  | .roles => s.pendingRoles
  | .clients => s.pendingClients

/-- Whether a task is the worker, and looks at what was asked for before it sleeps again. -/
def Task.isBusy (t : Task) : Bool :=
  match t.duty, t.phase with
  | .work, .draining | .work, .rebuilding _ _ => true
  | _, _ => false

namespace Machine

variable {m m' : Machine} {i j : Nat} {e : Event} {t t' u : Task} {more : List Task}

/-! ### The first load -/

theorem started_of_next? (he : m.next? e = some m') :
    m'.service.started = m.service.started ∨
      ∃ i channel, e.mover? = some i ∧ m.Launches i channel m' := by
  cases step_of_next? he with
  | move h =>
      cases h with
      | skipSetup => exact Or.inl (by rw [leaveSetup, setPhase]; simp)
      | enterRebuild =>
          rw [service_enterRebuild, Service.beginRebuild]
          exact Or.inl (by split <;> rfl)
      | refused => exact Or.inl (by rw [service_failRebuild]; rfl)
      | @publish duty reload resolver clients h =>
          cases duty with
          | setup channel => exact Or.inr ⟨_, channel, rfl, reload, resolver, clients, h, rfl⟩
          | _ =>
              refine Or.inl ?_
              rw [service_leaveRebuild_ok]
              exact (Bool.or_false _).trans (started_publish _ _ _)
      | @hear _ change => cases change <;> exact Or.inl rfl
      | _ => exact Or.inl rfl
  | request change => cases change <;> exact Or.inl rfl
  | ask query =>
      obtain ⟨_, _, _, _, hframe, -⟩ := m.service.frame_asked query
      exact Or.inl ((congrArg Service.started hframe).trans rfl)
  | deliver h =>
      obtain ⟨writeBacks, hm⟩ := service_deliver h
      exact Or.inl ((congrArg Service.started hm).trans rfl)
  | _ => exact Or.inl rfl

/-- **The first load, or an event that starts neither a worker nor a listener.** -/
theorem launches_or (he : m.next? e = some m') :
    (∃ i channel, e.mover? = some i ∧ m.Launches i channel m') ∨
      m'.service.started = m.service.started ∧
        ∀ (j : Nat) (u : Task), m'.tasks[j]? = some u → u.duty.isCall = false →
          ∃ t, m.tasks[j]? = some t ∧ t.duty = u.duty := by
  rcases started_of_next? he with hs | hlaunch
  · rcases turn_of_next? he with
      ⟨i, t, t', more, hi, hturn, rfl | ⟨channel, hl, -⟩⟩ | ⟨-, more, hun⟩
    · refine Or.inr ⟨hs, fun j u hu _ => ?_⟩
      by_cases hj : j = i
      · subst hj
        obtain rfl := Option.some.inj (hturn.after.symm.trans hu)
        exact ⟨t, hturn.before, hturn.duty.symm⟩
      · rcases hturn.origin hj hu with hu | hu
        · exact ⟨u, hu, rfl⟩
        · cases hu
    · exact Or.inl ⟨i, channel, hi, hl⟩
    · refine Or.inr ⟨hs, fun j u hu hcall => ?_⟩
      rw [hun.tasks, List.getElem?_append] at hu
      split at hu
      · exact ⟨u, hu, rfl⟩
      · rw [(hun.fresh u (List.mem_of_getElem? hu)).2] at hcall
        cases hcall
  · exact Or.inl hlaunch

theorem Launches.tasks {channel : Option Nat} (h : m.Launches i channel m') :
    m'.tasks = m.tasks.set i ⟨.setup channel, .ended (.ok ())⟩ ++
      (Duty.setup channel).spawned (.ok ()) := by
  obtain ⟨reload, resolver, clients, ht, rfl⟩ := h
  exact tasks_leaveRebuild (m := m.mapService (·.publish resolver clients)) ht (.ok ())

theorem Launches.service {channel : Option Nat} (h : m.Launches i channel m') :
    ∃ resolver clients,
      m'.service = { m.service.publish resolver clients with started := true } := by
  obtain ⟨reload, resolver, clients, ht, rfl⟩ := h
  exact ⟨resolver, clients, (service_leaveRebuild_ok _ _ _).trans (by simp [mapService])⟩

/-- A setup that succeeds first is the first load. -/
theorem launches_of_ended {channel : Option Nat} (he : m.next? e = some m')
    (hi : e.mover? = some i) (hs : m.service.started = false)
    (hend : m'.tasks[i]? = some ⟨.setup channel, .ended (.ok ())⟩) : m.Launches i channel m' := by
  cases move_of_mover? he hi with
  | skipSetup h _ hs' => rw [hs] at hs'; cases hs'
  | enterRebuild h =>
      rw [tasks_enterRebuild h, List.getElem?_set_self (List.getElem?_eq_some_iff.1 h).1] at hend
      cases hend
  | @refused duty _ _ _ cause h =>
      cases (getElem?_leaveRebuild (m := m.mapService Service.giveUp) h (.error cause)).symm.trans
        hend
  | @publish duty reload resolver clients h =>
      have hend' := getElem?_leaveRebuild (m := m.mapService (·.publish resolver clients)) h
        (.ok ())
      obtain rfl : duty = .setup channel :=
        congrArg Task.duty (Option.some.inj (hend'.symm.trans hend))
      exact ⟨reload, resolver, clients, h, rfl⟩
  | hear h => cases h.symm.trans hend
  | wake h | drain h => cases (getElem?_setPhase (m := m.mapService _) h _).symm.trans hend
  | _ h => cases (getElem?_setPhase h _).symm.trans hend

/-! ### What is asked for -/

end Machine

/-- What a service was asked for, and whether the worker has been told. -/
def Service.flags (s : Service) : Bool × Bool × Bool := (s.pendingRoles, s.pendingClients, s.awake)

theorem Service.asks_congr {s s' : Service} (h : s'.flags = s.flags) (k : Change) :
    s'.asks k = s.asks k := by
  simp only [flags, Prod.mk.injEq] at h
  cases k
  · exact h.1
  · exact h.2.1

theorem Service.awake_congr {s s' : Service} (h : s'.flags = s.flags) : s'.awake = s.awake :=
  congrArg (fun f => f.2.2) h

theorem Service.asks_request (s : Service) (change k : Change) :
    (s.request change).asks k = (s.asks k || k = change) := by
  cases change <;> cases k <;> simp [request, asks]

theorem Service.awake_request (s : Service) (change : Change) :
    (s.request change).awake = true := by
  cases change <;> rfl

namespace Machine

variable {m m' : Machine} {i j : Nat} {e : Event} {t t' u : Task} {more : List Task}

/-- **What an event does to the flags.**  A request sets one; the worker wakes up; the worker takes
what was asked for.  No other event touches them. -/
theorem flags_of_next? (he : m.next? e = some m') :
    m'.service.flags = m.service.flags ∨
    (∃ change, m'.service.flags = (m.service.request change).flags) ∨
    (∃ i, e.mover? = some i ∧ m.tasks[i]? = some ⟨.work, .parked⟩ ∧
      m' = (m.mapService fun s => { s with awake := false }).setPhase i .draining) ∨
    ∃ i, e.mover? = some i ∧ m.tasks[i]? = some ⟨.work, .draining⟩ ∧
      m' = (m.mapService fun s => { s with pendingRoles := false, pendingClients := false
        }).queueRebuild i ⟨m.service.pendingRoles, m.service.pendingClients⟩ := by
  cases step_of_next? he with
  | move h =>
      cases h with
      | skipSetup => exact Or.inl (congrArg Service.flags (service_discard m _))
      | enterRebuild =>
          rw [service_enterRebuild, Service.beginRebuild]
          exact Or.inl (by split <;> rfl)
      | refused => exact Or.inl (by rw [service_failRebuild]; rfl)
      | @publish duty reload resolver clients h =>
          rw [service_leaveRebuild_ok]
          exact Or.inl (by cases resolver <;> cases clients <;> rfl)
      | wake h => exact Or.inr (Or.inr (Or.inl ⟨_, rfl, h, rfl⟩))
      | drain h => exact Or.inr (Or.inr (Or.inr ⟨_, rfl, h, rfl⟩))
      | @hear _ change => exact Or.inr (Or.inl ⟨change, rfl⟩)
      | _ => exact Or.inl rfl
  | request change => exact Or.inr (Or.inl ⟨change, rfl⟩)
  | ask query =>
      obtain ⟨_, _, _, _, hframe, -⟩ := m.service.frame_asked query
      exact Or.inl ((congrArg Service.flags hframe).trans rfl)
  | deliver h =>
      obtain ⟨writeBacks, hm⟩ := service_deliver h
      exact Or.inl ((congrArg Service.flags hm).trans rfl)
  | _ => exact Or.inl rfl

/-! ### One worker, and awake -/

/-- There is no worker before the first load is done and one at most after it; setups go ahead only
before; and the worker has been woken for what it was asked, or is about to look. -/
structure Staffed (m : Machine) : Prop where
  off : m.service.started = false → ∀ t ∈ m.tasks, t.duty ≠ .work
  first : ∀ t ∈ m.tasks, t.isSettingUp = true → m.service.started = false
  unique : ∀ (i j : Nat) (t u : Task), m.tasks[i]? = some t → m.tasks[j]? = some u →
    t.duty = .work → u.duty = .work → i = j
  woken : ∀ k, m.service.asks k = true →
    m.service.awake = true ∨ ∃ t ∈ m.tasks, t.isBusy = true

theorem staffed_new (config : Config) (store : Store) : (new config store).Staffed where
  off _ := List.forall_mem_nil _
  first := List.forall_mem_nil _
  unique i j t u hi := by simp [new] at hi
  woken k hk := by cases k <;> cases hk

/-- A setup that goes ahead did so before, or no other was done. -/
theorem settingUp_of_next? (he : m.next? e = some m') (hu : m'.tasks[j]? = some u)
    (hup : u.isSettingUp = true) :
    (∃ t, m.tasks[j]? = some t ∧ t.isSettingUp = true) ∨ m.service.started = false := by
  by_cases hj : e.mover? = some j
  · obtain ⟨t, t', more, hturn, -⟩ := (move_of_mover? he hj).turn
    obtain rfl := Option.some.inj (hturn.after.symm.trans hu)
    exact (hturn.first hup).imp_left fun ht => ⟨t, hturn.before, ht⟩
  · rcases origin_of_next? he hj hu with hu | hfresh
    · exact Or.inl ⟨u, hu, hup⟩
    · have hout := (outside_of_fresh hfresh).1
      rw [Task.inSetup_of_isSettingUp u hup] at hout
      cases hout

theorem mem_setPhase (h : m.tasks[i]? = some t) (phase : Phase) :
    ⟨t.duty, phase⟩ ∈ (m.setPhase i phase).tasks := by
  exact List.mem_of_getElem? (getElem?_setPhase h phase)

/-- A worker that is busy goes on, until nothing is asked for. -/
theorem busy_of_next? (he : m.next? e = some m') (ht : t ∈ m.tasks) (hbusy : t.isBusy = true) :
    (∃ u ∈ m'.tasks, u.isBusy = true) ∨ ∀ k, m'.service.asks k = false := by
  obtain ⟨j, hj⟩ := List.mem_iff_getElem?.1 ht
  by_cases hmover : e.mover? = some j
  · have hmove := move_of_mover? he hmover
    obtain ⟨duty, phase⟩ := t
    cases duty with
    | work =>
        cases phase with
        | rebuilding reload stage =>
            have hlt := (List.getElem?_eq_some_iff.1 hj).1
            refine Or.inl ?_
            rcases hmove.rebuild hj with
              ⟨stage', -, htasks, -⟩ | ⟨cause, -, rfl⟩ | ⟨resolver, clients, -, -, rfl⟩
            · refine ⟨⟨.work, .rebuilding reload stage'⟩, ?_, rfl⟩
              rw [htasks]
              exact List.mem_set hlt _
            · exact ⟨_, List.mem_of_getElem? (getElem?_leaveRebuild
                (m := m.mapService Service.giveUp) hj (.error cause)), rfl⟩
            · exact ⟨_, List.mem_of_getElem? (getElem?_leaveRebuild
                (m := m.mapService (·.publish resolver clients)) hj (.ok ())), rfl⟩
        | draining =>
            cases hmove with
            | drain h =>
                exact Or.inl ⟨_, mem_setPhase (m := m.mapService _) h (.rebuilding _ .queued), rfl⟩
            | park _ hr hc =>
                exact Or.inr fun k => by
                  cases k with
                  | roles => exact hr
                  | clients => exact hc
            | refused h => cases h.symm.trans hj
            | _ h => cases h.symm.trans hj
        | _ => cases hbusy
    | _ => cases hbusy
  · exact Or.inl ⟨t, List.mem_of_getElem? (kept_of_next? he hmover hj), hbusy⟩

/-- The worker is woken for whatever is asked for, and looks before it sleeps again. -/
theorem woken_of_next? (h : m.Staffed) (he : m.next? e = some m') (k : Change)
    (hk : m'.service.asks k = true) :
    m'.service.awake = true ∨ ∃ t ∈ m'.tasks, t.isBusy = true := by
  have hbusy : (∃ t ∈ m.tasks, t.isBusy = true) → ∃ t ∈ m'.tasks, t.isBusy = true := by
    rintro ⟨t, ht, hb⟩
    rcases busy_of_next? he ht hb with hb | hnone
    · exact hb
    · rw [hnone k] at hk
      cases hk
  rcases flags_of_next? he with hsame | ⟨change, hreq⟩ | ⟨i, -, ht, rfl⟩ | ⟨i, -, ht, rfl⟩
  · rw [Service.asks_congr hsame] at hk
    rw [Service.awake_congr hsame]
    exact (h.woken k hk).imp_right hbusy
  · rw [Service.awake_congr hreq]
    exact Or.inl (m.service.awake_request change)
  · exact Or.inr ⟨_, mem_setPhase (m := m.mapService _) ht .draining, rfl⟩
  · exact Or.inr ⟨_, mem_setPhase (m := m.mapService _) ht (.rebuilding _ .queued), rfl⟩

/-- Nobody else sets the service up when the first load is done. -/
theorem Launches.not_settingUp {channel : Option Nat} (hl : m.Locked)
    (h : m.Launches i channel m') (ht : t ∈ m'.tasks) : t.isSettingUp = false := by
  refine Bool.eq_false_iff.2 fun hup => ?_
  have htasks := h.tasks
  obtain ⟨reload, resolver, clients, hi, -⟩ := h
  have hlt := (List.getElem?_eq_some_iff.1 hi).1
  rw [htasks] at ht
  rcases List.mem_append.1 ht with ht | ht
  · obtain ⟨j, hj⟩ := List.mem_iff_getElem?.1 ht
    by_cases hij : i = j
    · subst hij
      rw [List.getElem?_set_self hlt] at hj
      cases Option.some.inj hj
      cases hup
    · rw [List.getElem?_set_ne hij] at hj
      exact hij (hl.setup.unique hi rfl hj hup)
  · rcases List.mem_cons.1 ht with rfl | ht
    · cases hup
    · obtain ⟨c, -, rfl⟩ := List.mem_map.1 ht
      cases hup

/-- After the first load there is the worker that it started. -/
theorem Launches.worker {channel : Option Nat} (hoff : ∀ t ∈ m.tasks, t.duty ≠ .work)
    (h : m.Launches i channel m') (hj : m'.tasks[j]? = some t) (ht : t.duty = .work) :
    j = m.tasks.length := by
  rw [h.tasks, List.getElem?_append, List.length_set] at hj
  split at hj
  · rcases List.mem_or_eq_of_mem_set (List.mem_of_getElem? hj) with hmem | rfl
    · exact absurd ht (hoff t hmem)
    · cases ht
  · rename_i hlt
    cases hk : j - m.tasks.length with
    | zero => omega
    | succ k =>
        rw [hk, Duty.spawned, List.getElem?_cons_succ] at hj
        obtain ⟨c, -, rfl⟩ := List.mem_map.1 (List.mem_of_getElem? hj)
        cases ht

theorem Staffed.next (h : m.Staffed) (hl : m.Locked) (he : m.next? e = some m') : m'.Staffed := by
  rcases launches_or he with ⟨i, channel, -, hlaunch⟩ | ⟨hs, hkept⟩
  · have hoff : ∀ t ∈ m.tasks, t.duty ≠ .work := by
      obtain ⟨reload, resolver, clients, hi, -⟩ := hlaunch
      exact h.off (h.first _ (List.mem_of_getElem? hi) rfl)
    obtain ⟨resolver, clients, hservice⟩ := hlaunch.service
    refine ⟨fun hs => ?_, fun t ht hup => ?_, fun i j t u hi hj ht hu => ?_, woken_of_next? h he⟩
    · rw [hservice] at hs
      cases hs
    · rw [hlaunch.not_settingUp hl ht] at hup
      cases hup
    · rw [hlaunch.worker hoff hi ht, hlaunch.worker hoff hj hu]
  · refine ⟨fun hoff u hu hwork => ?_, fun u hu hup => ?_, fun i j t u hi hj ht hu => ?_,
      woken_of_next? h he⟩
    · obtain ⟨j, hj⟩ := List.mem_iff_getElem?.1 hu
      obtain ⟨t, ht, hduty⟩ := hkept j u hj (by rw [hwork]; rfl)
      exact h.off (hs ▸ hoff) t (List.mem_of_getElem? ht) (hduty.trans hwork)
    · obtain ⟨j, hj⟩ := List.mem_iff_getElem?.1 hu
      rw [hs]
      rcases settingUp_of_next? he hj hup with ⟨t, ht, htup⟩ | hs
      · exact h.first t (List.mem_of_getElem? ht) htup
      · exact hs
    · obtain ⟨t', ht', hduty⟩ := hkept i t hi (by rw [ht]; rfl)
      obtain ⟨u', hu', hduty'⟩ := hkept j u hj (by rw [hu]; rfl)
      exact h.unique i j t' u' ht' hu' (hduty.trans ht) (hduty'.trans hu)

/-- **There is one worker at most, and it has been woken for whatever is due.** -/
theorem Reachable.staffed {config : Config} (h : Reachable config m) : m.Staffed :=
  (Reachable.keeps (I := fun m => m.Staffed ∧ m.Locked)
    (fun he ha => ⟨ha.1.next ha.2 he, ha.2.next he⟩)
    (fun store => ⟨staffed_new config store, locked_new config store⟩) h).1

/-- **The worker does not sleep through a request.** -/
theorem Reachable.awake_of_parked {config : Config} (h : Reachable config m) {k : Change}
    (hi : m.tasks[i]? = some ⟨.work, .parked⟩) (hk : m.service.asks k = true) :
    m.service.awake = true := by
  rcases h.staffed.woken k hk with hawake | ⟨t, ht, hbusy⟩
  · exact hawake
  · obtain ⟨j, hj⟩ := List.mem_iff_getElem?.1 ht
    have hwork : t.duty = .work := by
      obtain ⟨duty, phase⟩ := t
      cases duty <;> first | rfl | cases hbusy
    obtain rfl := h.staffed.unique i j _ t hi hj rfl hwork
    obtain rfl := Option.some.inj (hi.symm.trans hj)
    cases hbusy

end Machine
end DelegatedScopes
