import DelegatedScopes.Proofs.Resolver.Definitions
import DelegatedScopes.Proofs.Service.Channel

/-!
# The service — what is read from a store

Whoever asks a store for its roles gets the roles that it has at that moment, in some order.  As
long as the store keeps its records of a kind, what was read of them is what it has, and so is the
snapshot that is published from it.

* `Store.Gives`: the resolver that the roles of a store give.
* `Stage.Shows`, `Service.Shows`: what was read, and what is published, is what a store has now.
* `Machine.Faithful`: a condition on runs.  Answers come from the store, no change finds the channel
  full, and no rebuild of the worker fails.
* `Machine.Flight.next`: what is being read stays current while the store keeps its records.
-/

namespace DelegatedScopes

namespace Store

variable {s s' : Store} {maxSteps : Nat} {r : Resolver} {k : Change}

/-- A resolver is the one that the roles of a store give, under whatever number. -/
def Gives (s : Store) (maxSteps : Nat) (r : Resolver) : Prop :=
  ∃ built, Resolver.build s.roles.values maxSteps = .ok built ∧
    r = built.withGeneration r.generation

theorem Gives.withGeneration (h : s.Gives maxSteps r) (generation : Nat) :
    s.Gives maxSteps (r.withGeneration generation) := by
  obtain ⟨built, hbuilt, hr⟩ := h
  refine ⟨built, hbuilt, ?_⟩
  rw [hr]
  rfl

/-- The order in which a store lists its roles does not show in the resolver. -/
theorem Lawful.build_of_perm {listed : List Role} (hs : s.Lawful)
    (hl : listed.Perm s.roles.values) (maxSteps : Nat) :
    Resolver.build listed maxSteps = Resolver.build s.roles.values maxSteps := by
  refine Resolver.build_congr (Role.effective_congr fun id => ?_) maxSteps
  rw [← Role.getElem?_byKey_eq_latest?, ← Role.getElem?_byKey_eq_latest?,
    hs.roles.getElem?_byKey_of_perm hl, hs.roles.getElem?_byKey_of_perm (.refl _)]

theorem Lawful.gives_of_perm {listed : List Role} (hs : s.Lawful)
    (hl : listed.Perm s.roles.values) (hr : Resolver.build listed maxSteps = .ok r) :
    s.Gives maxSteps r :=
  ⟨r, hs.build_of_perm hl maxSteps ▸ hr, rfl⟩

theorem Lawful.sameClients_of_perm {listed : List Client} (hs : s.Lawful)
    (hl : listed.Perm s.clients.values) : SameClients (byKey Client.id listed) s.clients :=
  fun id => by rw [hs.clients.getElem?_byKey_of_perm hl]

/-- The resolver that a store gives knows the roles of the store, and no others. -/
theorem Lawful.role?_of_gives (hs : s.Lawful) (h : s.Gives maxSteps r) (id : Text) :
    r.role? id = s.roles[id]? := by
  obtain ⟨built, hbuilt, hr⟩ := h
  rw [Resolver.build] at hbuilt
  split at hbuilt
  · cases hbuilt
  · obtain rfl := Except.ok.inj hbuilt
    rw [← hs.roles.getElem?_byKey_of_perm (.refl _), Role.getElem?_byKey_eq_latest?,
      ← Resolver.role?_compile _ maxSteps, hr]
    rfl

end Store

/-! ### What is read, and what is published -/

/-- Whether a rebuild is to read a kind of record. -/
def Reload.asks (reload : Reload) : Change → Bool
  | .roles => reload.roles
  | .clients => reload.clients

/-- Whether a rebuild has read a kind of record. -/
def Stage.has (stage : Stage) : Change → Bool
  | .roles => stage.resolver?.isSome
  | .clients => stage.clients?.isSome

/-- What a rebuild has read of a kind, if anything, is what a store has now. -/
def Stage.Shows (stage : Stage) (store : Store) (maxSteps : Nat) : Change → Prop
  | .roles => ∀ r, stage.resolver? = some r → store.Gives maxSteps r
  | .clients => ∀ listed, stage.clients? = some listed →
      SameClients (byKey Client.id listed) store.clients

/-- A snapshot shows what a store has now. -/
def Service.Shows (s : Service) (store : Store) : Change → Prop
  | .roles => store.Gives s.config.maxSteps s.resolver
  | .clients => SameClients s.table.clients store.clients

section Shows

variable {store store' : Store} {maxSteps : Nat} {k : Change} {stage stage' : Stage}
  {s s' : Service}

theorem Stage.Shows.keeps (h : stage.Shows store maxSteps k) (hk : store.Keeps store' k) :
    stage.Shows store' maxSteps k := by
  cases k with
  | roles =>
      intro r hr
      obtain ⟨built, hbuilt, hnumber⟩ := h r hr
      exact ⟨built, by rwa [hk], hnumber⟩
  | clients => exact fun listed hl => (h listed hl).trans hk

theorem Service.Shows.keeps (h : s.Shows store k) (hk : store.Keeps store' k) :
    s.Shows store' k := by
  cases k with
  | roles =>
      obtain ⟨built, hbuilt, hnumber⟩ := h
      exact ⟨built, by rwa [hk], hnumber⟩
  | clients => exact h.trans hk

theorem Service.Shows.congr (h : s.Shows store k) (hconfig : s'.config = s.config)
    (hresolver : s'.resolver = s.resolver) (htable : s'.table = s.table) : s'.Shows store k := by
  cases k with
  | roles =>
      rw [Shows, hconfig, hresolver]
      exact h
  | clients =>
      rw [Shows, htable]
      exact h

theorem Stage.shows_of_not_has (h : stage.has k = false) : stage.Shows store maxSteps k := by
  cases k with
  | roles =>
      intro r hr
      rw [has, hr] at h
      cases h
  | clients =>
      intro listed hl
      rw [has, hl] at h
      cases h

/-- **What is published shows**: the parts that were read, and those that showed before. -/
theorem Service.Replaced.shows {resolver : Option Resolver} {clients : Option (List Client)}
    (h : s.Replaced resolver clients s') (hconfig : s'.config = s.config)
    (hread : (Stage.loaded resolver clients).Shows store s.config.maxSteps k)
    (hold : (Stage.loaded resolver clients).has k = false → s.Shows store k) :
    s'.Shows store k := by
  cases k with
  | roles =>
      rw [Shows, hconfig, h.resolver_eq]
      cases resolver with
      | none => exact hold rfl
      | some r => exact (hread r rfl).withGeneration _
  | clients =>
      rw [Shows, h.table_eq]
      cases clients with
      | none => exact hold rfl
      | some listed => exact hread listed rfl

end Shows

/-- Whether an event neither answers nor changes the store. -/
def Event.isPlain : Event → Bool
  | .answerRoles _ _ | .answerClients _ _ | .edit _ => false
  | _ => true

namespace Machine

/-- What happens is faithful to the store, as far as a channel goes: whoever lists gets what the
store has at that moment, in some order, or is refused; no change is sent to the channel when it is
full; and no rebuild of the worker fails. -/
structure Faithful (c : Nat) (m : Machine) (e : Event) (m' : Machine) : Prop where
  roles : ∀ i listed, e = .answerRoles i (.ok listed) → listed.Perm m.sources.store.roles.values
  clients : ∀ i listed, e = .answerClients i (.ok listed) →
    listed.Perm m.sources.store.clients.values
  room : ∀ change, e = .edit change → m.sources.store.announced change ≠ none →
    m.sources.store.hasRoom c = true
  worker : ∀ i t, e.mover? = some i → m.tasks[i]? = some t → t.duty = .work →
    m'.service.counters.rebuildFailures = m.service.counters.rebuildFailures

/-- Events that neither answer nor change the store are faithful, unless a rebuild fails. -/
theorem Faithful.plain {c : Nat} {m m' : Machine} {e : Event} (he : e.isPlain = true)
    (hf : m'.service.counters.rebuildFailures = m.service.counters.rebuildFailures) :
    Faithful c m e m' where
  roles i listed h := by rw [h] at he; cases he
  clients i listed h := by rw [h] at he; cases he
  room change h := by rw [h] at he; cases he
  worker _ _ _ _ _ := hf

end Machine

/-! ### Stage by stage -/

namespace Stage

variable {store : Store} {maxSteps i : Nat} {reload : Reload} {stage stage' : Stage} {e : Event}
  {k : Change}

/-- What was read stays read. -/
theorem Next.has (h : Next maxSteps i reload stage e stage') (hk : stage.has k = true) :
    stage'.has k = true := by
  cases h with
  | clients =>
      cases k with
      | roles => exact hk
      | clients => rfl
  | _ => cases k <;> cases hk

/-- **What a rebuild reads shows.** -/
theorem Next.shows {c : Nat} {m m' : Machine} (hn : Next maxSteps i reload stage e stage')
    (hs : m.sources.store.Lawful) (hp : Machine.Faithful c m e m')
    (h : stage.Shows m.sources.store maxSteps k) : stage'.Shows m.sources.store maxSteps k := by
  cases hn with
  | enter =>
      refine shows_of_not_has ?_
      cases k with
      | roles => rw [Stage.has, resolver?_firstStage]; rfl
      | clients => rw [Stage.has, clients?_firstStage]; rfl
  | @roles listed resolver hbuild =>
      cases k with
      | roles =>
          intro r hr
          rw [resolver?_afterRoles] at hr
          cases hr
          exact hs.gives_of_perm (hp.roles i listed rfl) hbuild
      | clients =>
          intro found hf
          rw [clients?_afterRoles] at hf
          cases hf
  | @clients resolver listed =>
      cases k with
      | roles => exact h
      | clients =>
          intro found hf
          cases hf
          exact hs.sameClients_of_perm (hp.clients i listed rfl)

/-- A rebuild that has read everything has read what it was asked for. -/
theorem has_of_fits {resolver : Option Resolver} {clients : Option (List Client)}
    (h : (Stage.loaded resolver clients).Fits reload) (k : Change) :
    (Stage.loaded resolver clients).has k = reload.asks k := by
  cases k with
  | roles => exact h.1
  | clients => exact h.2

end Stage

namespace Machine

variable {m m' : Machine} {i j c : Nat} {e : Event} {duty : Duty} {reload : Reload} {stage : Stage}
  {k : Change}

/-- **Where a rebuild comes from**: it was where it is now, has just asked for its turn, or has gone
on by one stage. -/
theorem rebuilding_of_next? (he : m.next? e = some m')
    (hj : m'.tasks[j]? = some ⟨duty, .rebuilding reload stage⟩) :
    m.tasks[j]? = some ⟨duty, .rebuilding reload stage⟩ ∨ stage = .queued ∨
      ∃ earlier, m.tasks[j]? = some ⟨duty, .rebuilding reload earlier⟩ ∧
        earlier.Next m.service.config.maxSteps j reload e stage := by
  by_cases hmover : e.mover? = some j
  · have hmove := move_of_mover? he hmover
    obtain ⟨t, t', more, hturn, -⟩ := hmove.turn
    obtain rfl := Option.some.inj (hturn.after.symm.trans hj)
    cases hin : t.inRebuild with
    | false =>
        -- a task that was not in the queue of the lock has only joined it
        refine Or.inr (Or.inl ?_)
        cases stage with
        | queued => rfl
        | _ =>
            rcases hturn.rebuild.works rfl with hread | ⟨hin', -⟩
            · rw [Task.inRebuild_of_isReading t hread] at hin
              cases hin
            · rw [hin] at hin'
              cases hin'
    | true =>
        obtain ⟨duty', phase⟩ := t
        obtain rfl : duty = duty' := hturn.duty
        cases phase with
        | rebuilding reload' earlier =>
            obtain ⟨-, rfl, hnext, -⟩ := hmove.rebuild_on hturn.before hj
            exact Or.inr (Or.inr ⟨earlier, hturn.before, hnext⟩)
        | _ => cases hin
  · rcases origin_of_next? he hmover hj with hj | hfresh
    · exact Or.inl hj
    · cases hfresh

/-- The snapshots stay, or a rebuild publishes what it has read. -/
theorem published_of_next? (he : m.next? e = some m') :
    (m'.service.resolver = m.service.resolver ∧ m'.service.table = m.service.table) ∨
      ∃ (i : Nat) (duty : Duty) (reload : Reload) (resolver : Option Resolver)
          (clients : Option (List Client)),
        m.tasks[i]? = some ⟨duty, .rebuilding reload (.loaded resolver clients)⟩ ∧
        e = .move i ∧ m.service.Replaced resolver clients m'.service := by
  by_cases hread : ∃ i t, e.mover? = some i ∧ m.tasks[i]? = some t ∧ t.isReading = true
  · obtain ⟨i, ⟨duty, phase⟩, hi, ht, hread⟩ := hread
    cases phase with
    | rebuilding reload stage =>
        rcases (move_of_mover? he hi).rebuild ht with
          ⟨_, -, -, -, lifecycle, hservice⟩ | ⟨cause, -, rfl⟩ |
          ⟨resolver, clients, rfl, hmove, rfl⟩
        · exact Or.inl (by rw [hservice]; exact ⟨rfl, rfl⟩)
        · exact Or.inl (by rw [service_failRebuild]; exact ⟨rfl, rfl⟩)
        · refine Or.inr ⟨i, duty, reload, resolver, clients, ht, hmove, ?_⟩
          rw [service_leaveRebuild_ok]
          exact m.service.replaced_publish resolver clients _
    | _ => cases hread
  · have hsame := sameSnapshots_of_next? he fun i t hi ht =>
      Bool.eq_false_iff.2 fun h => hread ⟨i, t, hi, ht, h⟩
    exact Or.inl ⟨hsame.resolver, hsame.table⟩

/-- **A rebuild of the worker that does not fail** stays where it is, goes on by one stage, or
publishes what it has read. -/
theorem worker_of_next? (he : m.next? e = some m') (hp : Faithful c m e m')
    (hj : m.tasks[j]? = some ⟨.work, .rebuilding reload stage⟩) :
    (∃ stage', m'.tasks[j]? = some ⟨.work, .rebuilding reload stage'⟩ ∧
      (stage' = stage ∨ stage.Next m.service.config.maxSteps j reload e stage')) ∨
      ∃ resolver clients, stage = .loaded resolver clients ∧
        m.service.Replaced resolver clients m'.service := by
  by_cases hmover : e.mover? = some j
  · have hlt := (List.getElem?_eq_some_iff.1 hj).1
    rcases (move_of_mover? he hmover).rebuild hj with
      ⟨stage', hnext, htasks, -⟩ | ⟨cause, -, rfl⟩ | ⟨resolver, clients, hstage, -, rfl⟩
    · exact Or.inl ⟨stage', by rw [htasks, List.getElem?_set_self hlt], Or.inr hnext⟩
    · have hfail := hp.worker j _ hmover hj rfl
      rw [service_failRebuild] at hfail
      exact absurd hfail (Nat.succ_ne_self _)
    · refine Or.inr ⟨resolver, clients, hstage, ?_⟩
      rw [service_leaveRebuild_ok]
      exact m.service.replaced_publish resolver clients _
  · exact Or.inl ⟨stage, kept_of_next? he hmover hj, Or.inl rfl⟩

/-! ### What is being read -/

/-- What rebuilds have read of a kind so far is what the store has now. -/
def Current (m : Machine) (k : Change) : Prop :=
  ∀ (i : Nat) (duty : Duty) (reload : Reload) (stage : Stage),
    m.tasks[i]? = some ⟨duty, .rebuilding reload stage⟩ →
      stage.Shows m.sources.store m.service.config.maxSteps k

/-- **What was read stays current** while the store keeps its records. -/
theorem Current.next (h : m.Current k) (hs : m.sources.store.Lawful) (he : m.next? e = some m')
    (hp : Faithful c m e m') (hk : m.sources.store.Keeps m'.sources.store k) : m'.Current k := by
  intro j duty reload stage hj
  rw [config_of_next? he]
  refine Stage.Shows.keeps ?_ hk
  rcases rebuilding_of_next? he hj with hj | rfl | ⟨earlier, hj, hnext⟩
  · exact h j duty reload stage hj
  · exact Stage.shows_of_not_has (by cases k <;> rfl)
  · exact hnext.shows hs hp (h j duty reload earlier hj)

/-- One rebuild reads at a time, and the others have not read anything. -/
theorem current_of_reading (hl : m.Locked)
    (hj : m.tasks[j]? = some ⟨duty, .rebuilding reload stage⟩)
    (hread : Task.isReading ⟨duty, .rebuilding reload stage⟩ = true)
    (hshow : stage.Shows m.sources.store m.service.config.maxSteps k) : m.Current k := by
  intro i duty' reload' stage' hi
  by_cases hread' : Task.isReading ⟨duty', .rebuilding reload' stage'⟩ = true
  · obtain rfl := hl.rebuild.unique hi hread' hj hread
    cases Option.some.inj (hi.symm.trans hj)
    exact hshow
  · cases stage' with
    | queued => exact Stage.shows_of_not_has (by cases k <;> rfl)
    | _ => exact absurd rfl hread'

end Machine
end DelegatedScopes
