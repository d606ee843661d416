import DelegatedScopes.Proofs.Service.Answer
import DelegatedScopes.Proofs.Service.Start

/-!
# The service — the lifecycle

A service shows whether it has loaded anything, and whether a rebuild is under way.  What it shows
is so: it is set where the rebuild lock is taken and where it is let go, and nowhere else.  The lock
keeps all other rebuilds away meanwhile, so whoever asks is answered from the snapshots that were
there when the rebuild began.

* `Machine.HoldsLock`: a rebuild holds the rebuild lock.
* `Machine.Passing`, `Machine.Reachable.passing`: what an event means for the lock.
* `Machine.Reachable.truthful`: a service is rebuilding while a rebuild holds the lock.
* `History.lifecycle_truthful`: what every history of a service has of its lifecycle.
-/

namespace DelegatedScopes

theorem Duty.isReading_after (duty : Duty) (result : Except ResolutionError Unit) :
    Task.isReading ⟨duty, duty.after result⟩ = false := by
  cases duty <;> rfl

theorem Reload.isReading_firstStage (reload : Reload) (duty : Duty) :
    Task.isReading ⟨duty, .rebuilding reload reload.firstStage⟩ = true := by
  obtain ⟨roles, clients⟩ := reload
  cases roles <;> cases clients <;> rfl

theorem Reload.isReading_afterRoles (reload : Reload) (duty : Duty) (resolver : Option Resolver) :
    Task.isReading ⟨duty, .rebuilding reload (reload.afterRoles resolver)⟩ = true := by
  obtain ⟨roles, clients⟩ := reload
  cases clients <;> rfl

namespace Machine

variable {config : Config} {m m' : Machine} {i j : Nat} {e : Event} {t t' : Task} {more : List Task}

/-! ### Who holds the rebuild lock -/

/-- A rebuild holds the rebuild lock: it is first in the queue, and has had its turn. -/
def HoldsLock (m : Machine) (i : Nat) : Prop := m.rebuildQueue.head? = some i ∧ m.Reads i

/-- A rebuild succeeds: a task publishes what it was to read. -/
def Succeeds (m : Machine) (i : Nat) (m' : Machine) : Prop :=
  ∃ duty reload resolver clients,
    m.tasks[i]? = some ⟨duty, .rebuilding reload (.loaded resolver clients)⟩ ∧
    m' = (m.mapService (·.publish resolver clients)).leaveRebuild i duty (.ok ())

theorem Reads.holdsLock (h : m.Reads i) (hl : m.Locked) : m.HoldsLock i := by
  obtain ⟨t, ht, hread⟩ := id h
  exact ⟨hl.rebuild.head i t ht hread, h⟩

theorem Launches.succeeds {channel : Option Nat} (h : m.Launches i channel m') :
    m.Succeeds i m' := by
  obtain ⟨reload, resolver, clients, ht, hm⟩ := h
  exact ⟨.setup channel, reload, resolver, clients, ht, hm⟩

theorem Succeeds.lifecycle_eq (h : m.Succeeds i m') : m'.service.lifecycle = .ready := by
  obtain ⟨duty, reload, resolver, clients, -, rfl⟩ := h
  rw [service_leaveRebuild_ok]
  rfl

/-- Of the tasks that read, a move concerns its own at most. -/
theorem Turn.reads_iff (h : Turn m i t t' more m') (j : Nat) :
    m'.Reads j ↔ j = i ∧ t'.isReading = true ∨ j ≠ i ∧ m.Reads j := by
  by_cases hj : j = i
  · subst hj
    simp [Reads, h.after]
  · simp only [hj, false_and, ne_eq, not_false_eq_true, true_and, false_or]
    constructor
    · rintro ⟨u, hu, hread⟩
      rcases h.origin hj hu with hu | hu
      · exact ⟨u, hu, hread⟩
      · have hout := (outside_of_fresh (h.fresh u hu)).2
        rw [Task.inRebuild_of_isReading u hread] at hout
        cases hout
    · rintro ⟨u, hu, hread⟩
      exact ⟨u, h.kept hj hu, hread⟩

/-- A task that reads on, or goes on without reading. -/
theorem Turn.reads_iff_of_same (h : Turn m i t t' more m') (hsame : t'.isReading = t.isReading)
    (j : Nat) : m'.Reads j ↔ m.Reads j := by
  rw [h.reads_iff, hsame]
  by_cases hj : j = i
  · subst hj
    simp [Reads, h.before]
  · simp [hj]

theorem Unmoved.reads_iff (h : Unmoved m more m') (j : Nat) : m'.Reads j ↔ m.Reads j := by
  simp only [Reads, h.tasks]
  constructor
  · rintro ⟨u, hu, hread⟩
    rw [List.getElem?_append] at hu
    split at hu
    · exact ⟨u, hu, hread⟩
    · have hout := (outside_of_fresh (h.fresh u (List.mem_of_getElem? hu)).1).2
      rw [Task.inRebuild_of_isReading u hread] at hout
      cases hout
  · rintro ⟨u, hu, hread⟩
    exact ⟨u, by rw [List.getElem?_append_left (List.getElem?_eq_some_iff.1 hu).1, hu], hread⟩

/-! ### What an event means for the lock -/

/-- What an event means for the rebuild lock: a rebuild takes it, or lets go of it when it fails or
succeeds, or everything stays as it is. -/
inductive Passing (m : Machine) (e : Event) (m' : Machine) : Prop
  | rests (hreads : ∀ j, m'.Reads j ↔ m.Reads j)
      (hlifecycle : m'.service.lifecycle = m.service.lifecycle)
      (hsame : m.service.SameSnapshots m'.service)
  | begins {i : Nat} (he : e = .move i) (hfree : ∀ j, ¬m.Reads j) (htaken : ∀ j, m'.Reads j ↔ j = i)
      (hservice : m'.service = m.service.beginRebuild)
  | fails {i : Nat} (htaken : ∀ j, m.Reads j ↔ j = i) (hfree : ∀ j, ¬m'.Reads j)
      (hservice : m'.service = m.service.giveUp)
  | succeeds {i : Nat} (he : e = .move i) (htaken : ∀ j, m.Reads j ↔ j = i)
      (hfree : ∀ j, ¬m'.Reads j) (h : m.Succeeds i m')

/-- Whoever reads reads alone. -/
theorem Reachable.reads_iff (hr : Reachable config m) (hi : m.Reads i) (j : Nat) :
    m.Reads j ↔ j = i :=
  ⟨fun hj => hj.unique hr hi, fun hj => hj ▸ hi⟩

/-- When whoever reads stops reading, nobody does. -/
theorem Reachable.not_reads (hr : Reachable config m) (h : Turn m i t t' more m')
    (hread : t.isReading = true) (hdone : t'.isReading = false) (j : Nat) : ¬m'.Reads j := by
  rw [h.reads_iff, hdone]
  rintro (⟨-, h'⟩ | ⟨hj, h'⟩)
  · cases h'
  · exact hj (h'.unique hr ⟨t, h.before, hread⟩)

/-- A task outside the lock makes its move, and does not read after it. -/
theorem passing_of_outside (he : m.next? e = some m') (hi : e.mover? = some i)
    (hturn : Turn m i t t' more m') (hin : t.inRebuild = false) : m.Passing e m' := by
  have hout : t.isReading = false := Bool.eq_false_iff.2 fun hread => by
    rw [Task.inRebuild_of_isReading t hread] at hin
    cases hin
  have hout' : t'.isReading = false := Bool.eq_false_iff.2 fun hread => by
    rcases hturn.rebuild.works hread with h | ⟨h, -⟩
    · rw [hout] at h
      cases h
    · rw [hin] at h
      cases h
  have hmover : ∀ j u, e.mover? = some j → m.tasks[j]? = some u → u = t := by
    intro j u hj hu
    cases hi.symm.trans hj
    exact Option.some.inj (hu.symm.trans hturn.before)
  exact .rests (hturn.reads_iff_of_same (hout'.trans hout.symm))
    (lifecycle_of_next? he fun j u hj hu => hmover j u hj hu ▸ hin)
    (sameSnapshots_of_next? he fun j u hj hu => hmover j u hj hu ▸ hout)

/-- A rebuild takes the lock, goes on, fails or succeeds. -/
theorem Reachable.passing_of_rebuild {duty : Duty} {reload : Reload} {stage : Stage}
    (hr : Reachable config m) (hmove : Move m i e m')
    (hturn : Turn m i ⟨duty, .rebuilding reload stage⟩ t' more m') : m.Passing e m' := by
  have hbefore := hturn.before
  have hafter := hturn.after
  cases hmove with
  | enterRebuild h hhead =>
      cases hbefore.symm.trans h
      rw [tasks_enterRebuild h, List.getElem?_set_self (List.getElem?_eq_some_iff.1 h).1] at hafter
      obtain rfl := Option.some.inj hafter
      -- whoever read would be first in the queue
      have hfree : ∀ j, ¬m.Reads j := by
        rintro j ⟨u, hu, hread⟩
        cases hhead.symm.trans (hr.locked.rebuild.head j u hu hread)
        cases Option.some.inj (hu.symm.trans h)
        cases hread
      refine .begins rfl hfree (fun j => ?_) (service_enterRebuild m i reload)
      rw [hturn.reads_iff, reload.isReading_firstStage]
      simp [hfree]
  | @refused _ _ _ _ cause h why =>
      cases hbefore.symm.trans h
      have hread := why.isReading duty reload
      have hend := getElem?_leaveRebuild (m := m.mapService Service.giveUp) h (.error cause)
      obtain rfl := Option.some.inj (hend.symm.trans hafter)
      exact .fails (hr.reads_iff ⟨_, h, hread⟩)
        (hr.not_reads hturn hread (duty.isReading_after _)) (service_failRebuild m i _ _)
  | rolesRead h =>
      cases hbefore.symm.trans h
      obtain rfl := Option.some.inj ((getElem?_setPhase h _).symm.trans hafter)
      exact .rests (hturn.reads_iff_of_same (reload.isReading_afterRoles _ _)) rfl (.refl _)
  | clientsRead h =>
      cases hbefore.symm.trans h
      obtain rfl := Option.some.inj ((getElem?_setPhase h _).symm.trans hafter)
      exact .rests (hturn.reads_iff_of_same rfl) rfl (.refl _)
  | @publish _ _ resolver clients h =>
      cases hbefore.symm.trans h
      have hend := getElem?_leaveRebuild (m := m.mapService (·.publish resolver clients)) h (.ok ())
      obtain rfl := Option.some.inj (hend.symm.trans hafter)
      exact .succeeds rfl (hr.reads_iff ⟨_, h, rfl⟩)
        (hr.not_reads hturn rfl (duty.isReading_after _)) ⟨_, _, _, _, h, rfl⟩
  | _ h => cases hbefore.symm.trans h

/-- **Every event leaves the lock alone, takes it or lets go of it.** -/
theorem Reachable.passing (hr : Reachable config m) (he : m.next? e = some m') :
    m.Passing e m' := by
  rcases turn_of_next? he with ⟨i, t, t', more, hi, hturn, -⟩ | ⟨hi, more, hun⟩
  · cases hin : t.inRebuild with
    | false => exact passing_of_outside he hi hturn hin
    | true =>
        obtain ⟨duty, phase⟩ := t
        cases phase with
        | rebuilding reload stage => exact hr.passing_of_rebuild (move_of_mover? he hi) hturn
        | _ => cases hin
  · have hnobody : ∀ i, e.mover? ≠ some i := fun i hm => by rw [hi] at hm; cases hm
    exact .rests hun.reads_iff (lifecycle_of_next? he fun i _ hm => absurd hm (hnobody i))
      (sameSnapshots_of_next? he fun i _ hm => absurd hm (hnobody i))

/-! ### What is shown -/

/-- The lifecycle tells whether a rebuild of a loaded service holds the lock. -/
def Truthful (m : Machine) : Prop :=
  m.service.lifecycle = .rebuilding ↔ m.service.lifecycle ≠ .uninitialized ∧ ∃ i, m.Reads i

theorem truthful_new (config : Config) (store : Store) : (new config store).Truthful := by
  simp [Truthful, new, Service.new]

/-- The lifecycle goes on telling the truth when a rebuild passes from one stage to the next. -/
theorem Passing.truthful (h : m.Passing e m') (ht : m.Truthful) : m'.Truthful := by
  rw [Truthful] at ht ⊢
  cases h with
  | rests hreads hlifecycle => rwa [hlifecycle, exists_congr hreads]
  | begins _ _ htaken hservice =>
      have htakes : ∃ j, m'.Reads j := ⟨_, (htaken _).2 rfl⟩
      rw [hservice, Service.beginRebuild]
      split
      · rename_i hun
        simp [hun]
      · simp [htakes]
  | fails _ hfree hservice =>
      rw [hservice, Service.giveUp]
      split <;> simp [hfree]
  | succeeds _ _ hfree h => simp [h.lifecycle_eq, hfree]

/-- **A service that has loaded its snapshots is rebuilding while a rebuild holds the lock.** -/
theorem Reachable.truthful (h : Reachable config m) : m.Truthful := by
  suffices m.Truthful ∧ Reachable config m from this.1
  obtain ⟨store, events, hrun⟩ := h
  refine hrun.keeps (I := fun m => m.Truthful ∧ Reachable config m) (fun he _ ha => ?_)
    ⟨truthful_new config store, store, [], .start⟩
  exact ⟨(ha.2.passing he).truthful ha.1, ha.2.next he⟩

/-- While a rebuild holds the lock, no snapshot is replaced. -/
theorem Passing.sameSnapshots (h : m.Passing e m') (hi : m.Reads i) (hi' : m'.Reads i) :
    m.service.SameSnapshots m'.service := by
  cases h with
  | rests _ _ hsame => exact hsame
  | begins _ hfree => exact absurd hi (hfree i)
  | fails _ hfree => exact absurd hi' (hfree i)
  | succeeds _ _ hfree => exact absurd hi' (hfree i)

/-- A rebuild that has come to hold the lock has begun just now. -/
theorem Passing.begun (h : m.Passing e m') (hi : ¬m.Reads i) (hi' : m'.Reads i) :
    e = .move i ∧ m.service.SameSnapshots m'.service := by
  cases h with
  | rests hreads => exact absurd ((hreads i).1 hi') hi
  | begins he _ htaken hservice =>
      obtain rfl := (htaken i).1 hi'
      exact ⟨he, hservice ▸ m.service.sameSnapshots_beginRebuild⟩
  | fails _ hfree => exact absurd hi' (hfree i)
  | succeeds _ _ hfree => exact absurd hi' (hfree i)

end Machine

/-! ### Histories -/

namespace History

variable {config : Config} (h : History config) {t u i began : Nat}

/-- A rebuild succeeds at a moment. -/
def Succeeds (t : Nat) : Prop :=
  ∃ i, h.events[t]? = some (.move i) ∧ (h.state t).Succeeds i (h.state (t + 1))

/-- A rebuild has the turn to take the rebuild lock, and holds it from then on up to a moment. -/
structure Holds (i began t : Nat) : Prop where
  order : began < t
  turn : h.events[began]? = some (.move i)
  before : ¬(h.state began).HoldsLock i
  during : ∀ s, began < s → s ≤ t → (h.state s).HoldsLock i

/-- Nothing has been loaded until a rebuild succeeds. -/
theorem pristine_iff (t : Nat) : (h.state t).Pristine ↔ ∀ u < t, ¬h.Succeeds u := by
  constructor
  · rintro hp u hu ⟨i, -, hs⟩
    have hnot : ¬h.Launched (u + 1) := fun hl => hp.not_running (running_of_launched (hl.mono hu))
    have hready := hs.lifecycle_eq
    rw [(pristine_of_not_launched hnot).lifecycle] at hready
    cases hready
  · intro hno
    refine pristine_of_not_launched ?_
    rintro ⟨u, hu, i, channel, he, hlaunch⟩
    exact hno u hu ⟨i, he, hlaunch.succeeds⟩

theorem uninitialized_iff (t : Nat) :
    (h.state t).service.lifecycle = .uninitialized ↔ (h.state t).Pristine :=
  ⟨fun hun => (h.reachable t).pristine_or_running.resolve_right fun hr => hr.lifecycle hun,
    fun hp => hp.lifecycle⟩

theorem generation_eq_zero_iff (t : Nat) :
    (h.state t).service.generation = 0 ↔ (h.state t).Pristine :=
  ⟨fun hzero => (h.reachable t).pristine_or_running.resolve_right fun hr => hr.number .roles hzero,
    fun hp => hp.number .roles⟩

/-- What was loaded stays loaded. -/
theorem pristine_of_le (htu : t ≤ u) (hp : (h.state u).Pristine) : (h.state t).Pristine :=
  (h.pristine_iff t).2 fun v hv => (h.pristine_iff u).1 hp v (Nat.lt_of_lt_of_le hv htu)

/-- Whoever reads took the lock at some moment, and no snapshot was replaced since. -/
theorem exists_holds (hi : (h.state t).Reads i) :
    ∃ began, h.Holds i began t ∧
      (h.state began).service.SameSnapshots (h.state t).service := by
  have hzero : ¬(h.state 0).Reads i := by
    rintro ⟨u, hu, -⟩
    simp [state_zero, Machine.new] at hu
  obtain ⟨began, hlt, hno, hall⟩ :=
    exists_before (P := fun s => (h.state s).Reads i) hzero hi
  have hfirst := hall (began + 1) (Nat.lt_succ_self began) hlt
  rcases h.step began with ⟨e, he, hnext⟩ | ⟨-, hsame⟩
  · obtain ⟨rfl, hbegin⟩ := ((h.reachable began).passing hnext).begun hno hfirst
    refine ⟨began, ⟨hlt, he, fun hh => hno hh.2, fun s hs hle =>
      (hall s hs hle).holdsLock (h.reachable s).locked⟩, ?_⟩
    have hkept : ∀ s, began + 1 ≤ s → s ≤ t →
        (h.state began).service.SameSnapshots (h.state s).service := by
      intro s hs
      induction hs with
      | refl => exact fun _ => hbegin
      | @step s hs ih =>
          intro hle
          have hsame := ih (Nat.le_of_succ_le hle)
          rcases h.step s with ⟨e, -, hnext⟩ | ⟨-, hover⟩
          · exact hsame.trans (((h.reachable s).passing hnext).sameSnapshots
              (hall s hs (Nat.le_of_succ_le hle)) (hall (s + 1) (Nat.lt_succ_of_lt hs) hle))
          · rwa [hover]
    exact hkept t hlt (Nat.le_refl t)
  · rw [hsame] at hfirst
    exact absurd hfirst hno

/-- **The lifecycle is truthful.**  At every moment of every history of a service, whatever calls,
rebuilds, questions and failures there were:

* the service is uninitialized if and only if no rebuild has succeeded, if and only if it has no
  generation yet, and if and only if it tells whoever asks, whatever the question, that it is not
  ready;
* once it is not, it never is again;
* it is rebuilding if and only if some rebuild has succeeded and some rebuild holds the rebuild
  lock;
* while it is rebuilding, a rebuild has held the lock since a moment at which it began, and every
  question is answered from the snapshots of that moment. -/
theorem lifecycle_truthful (h : History config) (t : Nat) :
    ((h.state t).service.lifecycle = .uninitialized ↔ ∀ u < t, ¬h.Succeeds u) ∧
    ((h.state t).service.lifecycle = .uninitialized ↔ (h.state t).service.generation = 0) ∧
    (∀ query, (h.state t).service.lifecycle = .uninitialized ↔
      ((h.state t).service.answer query).error? = some .notReady) ∧
    ((h.state t).service.lifecycle ≠ .uninitialized →
      ∀ u, t ≤ u → (h.state u).service.lifecycle ≠ .uninitialized) ∧
    ((h.state t).service.lifecycle = .rebuilding ↔
      (∃ u < t, h.Succeeds u) ∧ ∃ i, (h.state t).HoldsLock i) ∧
    ((h.state t).service.lifecycle = .rebuilding → ∃ i began, h.Holds i began t ∧
      ∀ query, (h.state t).service.answer query =
        Service.served (h.state began).service.resolver (h.state began).service.table
          (fun c now => ((h.state t).service.recordUse c now).1) query) := by
  have hr := h.reachable t
  have hun := h.uninitialized_iff t
  have hnone := h.pristine_iff t
  have hloaded : (h.state t).service.lifecycle ≠ .uninitialized ↔ ∃ u < t, h.Succeeds u := by
    rw [Ne, hun, hnone]
    simp
  have hlock : (∃ i, (h.state t).Reads i) ↔ ∃ i, (h.state t).HoldsLock i :=
    exists_congr fun i => ⟨fun hi => hi.holdsLock hr.locked, And.right⟩
  have htruth := hr.truthful
  refine ⟨hun.trans hnone, hun.trans (h.generation_eq_zero_iff t).symm,
    fun query => (hr.fresh.answer_notReady_iff query).symm, fun hne u htu hu => ?_, ?_,
    fun hre => ?_⟩
  · exact hne (hun.2 (h.pristine_of_le htu ((h.uninitialized_iff u).1 hu)))
  · rw [← hloaded, ← hlock]
    exact htruth
  · obtain ⟨hne, i, hi⟩ := htruth.1 hre
    obtain ⟨began, hholds, hsame⟩ := h.exists_holds hi
    refine ⟨i, began, hholds, fun query => ?_⟩
    rw [hr.fresh.answer_eq hne, hsame.resolver, hsame.table]

/-- A service over an empty store is set up and rebuilt at once.  The rebuild has read a new role
and has not listed the clients yet. -/
def lateHall : List Event :=
  [.setup none, .move 0, .move 0, .move 0, .answerRoles 0 (.ok []), .answerClients 0 (.ok []),
    .move 0, .rebuildNow, .move 2, .move 2,
    .answerRoles 2 (.ok [.plain "hall".toList ["door".toList] ⟨0, 0⟩])]

/-- Whoever asks now gets the answer of before: nothing is known of the role. -/
theorem lifecycle_truthful_hall :
    ∃ h : History ⟨10, 100⟩, h.events = lateHall ∧
      (h.state 11).service.lifecycle = .rebuilding ∧ (h.state 9).service.lifecycle = .ready ∧
      (∃ i began, h.Holds i began 11 ∧ ∀ query, (h.state 11).service.answer query =
        Service.served (h.state began).service.resolver (h.state began).service.table
          (fun c now => ((h.state 11).service.recordUse c now).1) query) ∧
      (h.state 11).service.answer (.loadRole "hall".toList) = .role (.ok none) := by
  let h : History ⟨10, 100⟩ := ⟨.ofEntries [] [], lateHall, rfl⟩
  have hre : (h.state 11).service.lifecycle = .rebuilding := rfl
  obtain ⟨-, -, -, -, -, hserved⟩ := lifecycle_truthful h 11
  exact ⟨h, rfl, hre, rfl, hserved hre, rfl⟩

end History
end DelegatedScopes
