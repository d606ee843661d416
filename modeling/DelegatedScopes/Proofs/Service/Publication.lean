import DelegatedScopes.Proofs.Service.History
import DelegatedScopes.Proofs.Service.Reading

/-!
# The service — publications

A rebuild that lists records may wait for the answer as long as it takes, and the store may change
meanwhile.  But it holds the rebuild lock from before it asks until after it publishes.  So what a
later publication shows was asked for after everything that an earlier one shows was answered, and
no older answer ever replaces a newer one.

* `History.publishes`: the moments at which a snapshot is replaced.
* `History.Behind`: the listing behind a publication, from the question to the answer.
* `History.publications_in_order`: every publication has the next number and a listing behind it,
  and listings behind publications of one kind come one after the other.
-/

namespace DelegatedScopes

/-! ### Snapshots and what they are made from -/

namespace Service

/-- The number of the snapshot of a kind: the generation of the resolver, the epoch of the table. -/
def number (s : Service) : Change → Nat
  | .roles => s.generation
  | .clients => s.table.epoch

/-- Two services have the same snapshot of a kind. -/
def SameSnapshot (s s' : Service) : Change → Prop
  | .roles => s'.resolver = s.resolver
  | .clients => s'.table = s.table

/-- The snapshot of a kind holds what a task was answered. -/
def MadeFrom (s : Service) (i : Nat) (e : Event) : Change → Prop
  | .roles => ∃ listed built, e = .answerRoles i (.ok listed) ∧
      Resolver.build listed s.config.maxSteps = .ok built ∧
      s.resolver = built.withGeneration s.generation
  | .clients => ∃ listed, e = .answerClients i (.ok listed) ∧
      s.table.clients = byKey Client.id listed

theorem SameSnapshot.number_eq {s s' : Service} {k : Change} (h : s.SameSnapshot s' k) :
    s'.number k = s.number k := by
  cases k with
  | roles => exact congrArg Resolver.generation h
  | clients => exact congrArg ClientTable.epoch h

end Service

namespace Stage

/-- Whether a rebuild waits for the records of a kind. -/
def lists : Stage → Change → Bool
  | .listingRoles, .roles | .listingClients _, .clients => true
  | _, _ => false

/-- What a rebuild has read of a kind is what its task was answered. -/
def ReadFrom (stage : Stage) (maxSteps i : Nat) (e : Event) : Change → Prop
  | .roles => ∃ listed built, e = .answerRoles i (.ok listed) ∧
      Resolver.build listed maxSteps = .ok built ∧ stage.resolver? = some built
  | .clients => ∃ listed, e = .answerClients i (.ok listed) ∧ stage.clients? = some listed

variable {stage stage' : Stage} {maxSteps i : Nat} {reload : Reload} {e e' : Event} {k : Change}

theorem has_of_readFrom (h : stage.ReadFrom maxSteps i e k) : stage.has k = true := by
  cases k with
  | roles =>
      obtain ⟨_, _, -, -, h⟩ := h
      rw [has, h]
      rfl
  | clients =>
      obtain ⟨_, -, h⟩ := h
      rw [has, h]
      rfl

/-- **Records are read by listing them**: what a stage has that the one before had not was just
answered. -/
theorem Next.readFrom_or (h : stage.Next maxSteps i reload e stage') (hk : stage'.has k = true) :
    (stage.has k = true ∧ ∀ e', stage.ReadFrom maxSteps i e' k → stage'.ReadFrom maxSteps i e' k) ∨
      stage.lists k = true ∧ stage'.ReadFrom maxSteps i e k := by
  cases h with
  | enter =>
      cases k with
      | roles => rw [Stage.has, resolver?_firstStage] at hk; cases hk
      | clients => rw [Stage.has, clients?_firstStage] at hk; cases hk
  | @roles listed resolver hbuild =>
      cases k with
      | roles => exact Or.inr ⟨rfl, listed, resolver, rfl, hbuild, resolver?_afterRoles _ _⟩
      | clients => rw [Stage.has, clients?_afterRoles] at hk; cases hk
  | @clients resolver listed =>
      cases k with
      | roles => exact Or.inl ⟨hk, fun _ h' => h'⟩
      | clients => exact Or.inr ⟨rfl, listed, rfl, rfl⟩

/-- Records that are waited for have not been read. -/
theorem has_eq_false_of_lists (h : stage.lists k = true) : stage.has k = false := by
  cases stage <;> cases k <;> first | rfl | cases h

theorem isReading_of_lists (h : stage.lists k = true) (duty : Duty) (reload : Reload) :
    Task.isReading ⟨duty, .rebuilding reload stage⟩ = true := by
  cases stage with
  | queued => cases k <;> cases h
  | _ => rfl

theorem isReading_of_has (h : stage.has k = true) (duty : Duty) (reload : Reload) :
    Task.isReading ⟨duty, .rebuilding reload stage⟩ = true := by
  cases stage with
  | queued => cases k <;> cases h
  | _ => rfl

end Stage

namespace Service.Replaced

variable {s s' : Service} {resolver : Option Resolver} {clients : Option (List Client)} {i : Nat}
  {e : Event} {k : Change}

/-- What was not read stays as it is. -/
theorem sameSnapshot (h : s.Replaced resolver clients s')
    (hk : (Stage.loaded resolver clients).has k = false) : s.SameSnapshot s' k := by
  cases k with
  | roles =>
      cases resolver with
      | none => exact h.resolver_eq
      | some r => cases hk
  | clients =>
      cases clients with
      | none => exact h.table_eq
      | some listed => cases hk

/-- What was read gets the next number. -/
theorem number_eq (h : s.Replaced resolver clients s')
    (hk : (Stage.loaded resolver clients).has k = true) : s'.number k = s.number k + 1 := by
  cases k with
  | roles => exact h.generation_eq.trans (congrArg _ (if_pos hk))
  | clients =>
      obtain ⟨listed, rfl⟩ := Option.isSome_iff_exists.1 hk
      exact congrArg ClientTable.epoch h.table_eq

/-- **What is published is what was read.** -/
theorem madeFrom (h : s.Replaced resolver clients s') (hconfig : s'.config = s.config)
    (hread : (Stage.loaded resolver clients).ReadFrom s.config.maxSteps i e k) :
    s'.MadeFrom i e k := by
  cases k with
  | roles =>
      obtain ⟨listed, built, he, hbuild, rfl⟩ := hread
      refine ⟨listed, built, he, hconfig ▸ hbuild, ?_⟩
      rw [h.generation_eq]
      exact h.resolver_eq
  | clients =>
      obtain ⟨listed, he, rfl⟩ := hread
      exact ⟨listed, he, congrArg ClientTable.clients h.table_eq⟩

end Service.Replaced

namespace Machine

variable {m m' : Machine} {i j : Nat} {k : Change} {e : Event}

/-- A task is at a stage of a rebuild. -/
def At (m : Machine) (i : Nat) (P : Stage → Prop) : Prop :=
  ∃ duty reload stage, m.tasks[i]? = some ⟨duty, .rebuilding reload stage⟩ ∧ P stage

/-- A task waits for the records of a kind. -/
def Lists (m : Machine) (i : Nat) (k : Change) : Prop := m.At i fun stage => stage.lists k = true

/-- A task has read the records of a kind, and has not published them. -/
def HasRead (m : Machine) (i : Nat) (k : Change) : Prop := m.At i fun stage => stage.has k = true

theorem At.mono {P Q : Stage → Prop} (h : m.At i P) (hPQ : ∀ stage, P stage → Q stage) :
    m.At i Q := by
  obtain ⟨duty, reload, stage, ht, hP⟩ := h
  exact ⟨duty, reload, stage, ht, hPQ stage hP⟩

/-- A task reads: it waits for records of a kind, or has read them. -/
def Reads (m : Machine) (i : Nat) : Prop :=
  ∃ t, m.tasks[i]? = some t ∧ t.isReading = true

theorem Lists.reads (h : m.Lists i k) : m.Reads i := by
  obtain ⟨duty, reload, stage, ht, hk⟩ := h
  exact ⟨_, ht, Stage.isReading_of_lists hk duty reload⟩

theorem HasRead.reads (h : m.HasRead i k) : m.Reads i := by
  obtain ⟨duty, reload, stage, ht, hk⟩ := h
  exact ⟨_, ht, Stage.isReading_of_has hk duty reload⟩

/-- One task reads at a time. -/
theorem Reads.unique {config : Config} (hr : Reachable config m) (hi : m.Reads i)
    (hj : m.Reads j) : i = j := by
  obtain ⟨t, ht, hread⟩ := hi
  obtain ⟨u, hu, hread'⟩ := hj
  exact hr.locked.rebuild.unique ht hread hu hread'

/-- A task that reads on publishes nothing. -/
theorem number_eq_of_reads (he : m.next? e = some m') (hi : e.mover? = some i) (hm : m.Reads i)
    (hm' : m'.Reads i) (k : Change) : m'.service.number k = m.service.number k := by
  obtain ⟨⟨duty, phase⟩, ht, hread⟩ := hm
  obtain ⟨⟨duty', phase'⟩, ht', hread'⟩ := hm'
  cases phase with
  | rebuilding reload stage =>
      cases phase' with
      | rebuilding reload' stage' =>
          obtain ⟨-, -, -, lifecycle, hservice⟩ := (move_of_mover? he hi).rebuild_on ht ht'
          rw [hservice]
          cases k <;> rfl
      | _ => cases hread'
  | _ => cases hread

/-- What was read stays read, and where it comes from. -/
theorem readFrom_of_next? {config : Config} {e' : Event} (hr : Reachable config m)
    (he : m.next? e = some m') (h : m.At i fun stage => stage.ReadFrom config.maxSteps i e' k)
    (hm' : m'.HasRead i k) : m'.At i fun stage => stage.ReadFrom config.maxSteps i e' k := by
  obtain ⟨duty, reload, stage, ht, hfrom⟩ := h
  obtain ⟨duty', reload', stage', ht', hk⟩ := hm'
  refine ⟨duty', reload', stage', ht', ?_⟩
  rcases rebuilding_of_next? he ht' with ht' | rfl | ⟨earlier, hearlier, hnext⟩
  · cases Option.some.inj (ht.symm.trans ht')
    exact hfrom
  · cases k <;> cases hk
  · cases Option.some.inj (ht.symm.trans hearlier)
    rw [hr.config_eq] at hnext
    rcases hnext.readFrom_or hk with ⟨-, hkeep⟩ | ⟨hlists, -⟩
    · exact hkeep e' hfrom
    · have hhas := Stage.has_eq_false_of_lists hlists
      rw [Stage.has_of_readFrom hfrom] at hhas
      cases hhas

/-- What was not read before is read by the answer that has just come. -/
theorem lists_of_next? {config : Config} (hr : Reachable config m) (he : m.next? e = some m')
    (hm : ¬m.HasRead i k) (hm' : m'.HasRead i k) :
    m.Lists i k ∧ m'.At i fun stage => stage.ReadFrom config.maxSteps i e k := by
  obtain ⟨duty, reload, stage, ht', hk⟩ := hm'
  rcases rebuilding_of_next? he ht' with ht | rfl | ⟨earlier, ht, hnext⟩
  · exact absurd ⟨duty, reload, stage, ht, hk⟩ hm
  · cases k <;> cases hk
  · rw [hr.config_eq] at hnext
    rcases hnext.readFrom_or hk with ⟨hhas, -⟩ | ⟨hlists, hfrom⟩
    · exact absurd ⟨duty, reload, earlier, ht, hhas⟩ hm
    · exact ⟨⟨duty, reload, earlier, ht, hlists⟩, duty, reload, stage, ht', hfrom⟩

/-- **A snapshot stays, or a task publishes what it has read.** -/
theorem snapshot_of_next? {config : Config} (hr : Reachable config m) (he : m.next? e = some m')
    (k : Change) :
    m.service.SameSnapshot m'.service k ∨
      ∃ i, e = .move i ∧ m.HasRead i k ∧ m'.service.number k = m.service.number k + 1 ∧
        ∀ e', m.At i (fun stage => stage.ReadFrom config.maxSteps i e' k) →
          m'.service.MadeFrom i e' k := by
  rcases published_of_next? he with ⟨hresolver, htable⟩ |
    ⟨i, duty, reload, resolver, clients, ht, hmove, hnew⟩
  · refine Or.inl ?_
    cases k with
    | roles => exact hresolver
    | clients => exact htable
  · cases hhas : (Stage.loaded resolver clients).has k with
    | false => exact Or.inl (hnew.sameSnapshot hhas)
    | true =>
        refine Or.inr ⟨i, hmove, ⟨duty, reload, _, ht, hhas⟩, hnew.number_eq hhas, ?_⟩
        rintro e' ⟨_, _, stage, ht', hfrom⟩
        cases Option.some.inj (ht.symm.trans ht')
        exact hnew.madeFrom (config_of_next? he) (hr.config_eq ▸ hfrom)

end Machine

/-! ### The listing behind a publication -/

namespace History

variable {config : Config} (h : History config) {k : Change} {i j t u began ended : Nat} {e : Event}

/-- Whether a snapshot is replaced at a moment. -/
def publishes (k : Change) (t : Nat) : Bool :=
  (h.state (t + 1)).service.number k != (h.state t).service.number k

/-- A task asks for the records of a kind with one event, and waits up to another. -/
structure Waits (k : Change) (i began ended : Nat) : Prop where
  order : began < ended
  before : ¬(h.state began).Lists i k
  during : ∀ s, began < s → s ≤ ended → (h.state s).Lists i k

/-- The listing behind a publication.  A task asks for the records with one event and is answered
with another; it keeps what was answered, until it publishes that in its own turn. -/
structure Behind (k : Change) (i began ended t : Nat) : Prop where
  waits : h.Waits k i began ended
  keeps : ∀ s, ended < s → s ≤ t → (h.state s).HasRead i k
  order : ended < t
  replaces : h.publishes k t = true
  turn : h.events[t]? = some (.move i)
  answer : ∃ e, h.events[ended]? = some e ∧ (h.state (t + 1)).service.MadeFrom i e k

/-- What is so at a moment, and was not so at first, has become so at some moment before. -/
theorem exists_before {P : Nat → Prop} (h₀ : ¬P 0) (ht : P t) :
    ∃ began, began < t ∧ ¬P began ∧ ∀ s, began < s → s ≤ t → P s := by
  induction t with
  | zero => exact absurd ht h₀
  | succ t ih =>
      by_cases hP : P t
      · obtain ⟨began, hlt, hno, hall⟩ := ih hP
        refine ⟨began, Nat.lt_succ_of_lt hlt, hno, fun s hs hle => ?_⟩
        rcases Nat.le_succ_iff.1 hle with hle | rfl
        · exact hall s hs hle
        · exact ht
      · exact ⟨t, Nat.lt_succ_self t, hP, fun s hs hle => Nat.le_antisymm hle hs ▸ ht⟩

theorem not_at_zero (P : Stage → Prop) : ¬(h.state 0).At i P := by
  rintro ⟨_, _, _, ht, -⟩
  simp [state_zero, Machine.new] at ht

theorem exists_waits (hi : (h.state t).Lists i k) : ∃ began, h.Waits k i began t := by
  obtain ⟨began, hlt, hno, hall⟩ :=
    exists_before (P := fun s => (h.state s).Lists i k) (h.not_at_zero _) hi
  exact ⟨began, hlt, hno, hall⟩

/-- Whatever a task has read was answered to it, and since then it has kept it. -/
theorem exists_answer (hi : (h.state t).HasRead i k) :
    ∃ ended e, ended < t ∧ (h.state ended).Lists i k ∧ h.events[ended]? = some e ∧
      (∀ s, ended < s → s ≤ t → (h.state s).HasRead i k) ∧
      (h.state t).At i fun stage => stage.ReadFrom config.maxSteps i e k := by
  obtain ⟨ended, hlt, hno, hall⟩ :=
    exists_before (P := fun s => (h.state s).HasRead i k) (h.not_at_zero _) hi
  have hfirst := hall (ended + 1) (Nat.lt_succ_self ended) hlt
  rcases h.step ended with ⟨e, he, hnext⟩ | ⟨-, hsame⟩
  · -- the last moment at which nothing was read is the moment of the answer
    obtain ⟨hlists, hfrom⟩ := Machine.lists_of_next? (h.reachable ended) hnext hno hfirst
    refine ⟨ended, e, hlt, hlists, he, hall, ?_⟩
    have hkept : ∀ s, ended + 1 ≤ s → s ≤ t →
        (h.state s).At i fun stage => stage.ReadFrom config.maxSteps i e k := by
      intro s hs
      induction hs with
      | refl => exact fun _ => hfrom
      | @step s hs ih =>
          intro hle
          have hat := ih (Nat.le_of_succ_le hle)
          rcases h.step s with ⟨e', -, hnext'⟩ | ⟨-, hsame⟩
          · exact Machine.readFrom_of_next? (h.reachable s) hnext' hat
              (hall (s + 1) (Nat.lt_succ_of_lt hs) hle)
          · rwa [hsame]
    exact hkept t hlt (Nat.le_refl t)
  · rw [hsame] at hfirst
    exact absurd hfirst hno

/-- Every publication has a listing behind it, and gets the next number. -/
theorem exists_behind (hp : h.publishes k t = true) :
    (h.state (t + 1)).service.number k = (h.state t).service.number k + 1 ∧
      ∃ i began ended, h.Behind k i began ended t := by
  have hne : (h.state (t + 1)).service.number k ≠ (h.state t).service.number k := by
    simpa [publishes] using hp
  rcases h.step t with ⟨e, he, hnext⟩ | ⟨-, hsame⟩
  · rcases Machine.snapshot_of_next? (h.reachable t) hnext k with
      hsame | ⟨i, rfl, hread, hnumber, hmade⟩
    · exact absurd hsame.number_eq hne
    · obtain ⟨ended, e, hlt, hlists, hanswer, hall, hfrom⟩ := h.exists_answer hread
      obtain ⟨began, hwaits⟩ := h.exists_waits hlists
      exact ⟨hnumber, i, began, ended, hwaits, hall, hlt, hp, he, e, hanswer, hmade e hfrom⟩
  · rw [hsame] at hne
    exact absurd rfl hne

/-- From the question to the publication, the task holds the rebuild lock. -/
theorem Behind.reads {h : History config} (hb : h.Behind k i began ended t) {s : Nat}
    (hs : began < s) (hle : s ≤ t) : (h.state s).Reads i := by
  by_cases hend : s ≤ ended
  · exact (hb.waits.during s hs hend).reads
  · exact (hb.keeps s (Nat.lt_of_not_le hend) hle).reads

/-- **The lock keeps listings apart**: the task of a later publication has not asked when the
earlier one happens. -/
theorem Behind.le_began {h : History config} {began' ended' : Nat}
    (hb : h.Behind k i began ended t) (hb' : h.Behind k j began' ended' u) (htu : t < u) :
    t ≤ began' := by
  refine Nat.le_of_not_lt fun hlt => ?_
  -- otherwise both tasks hold the lock at `t`, and the one task goes on after its publication
  have hread : (h.state t).Reads i :=
    hb.reads (Nat.lt_trans hb.waits.order hb.order) (Nat.le_refl t)
  have hread' : (h.state t).Reads j := hb'.reads hlt (Nat.le_of_lt htu)
  obtain rfl := hread.unique (h.reachable t) hread'
  have hsame := Machine.number_eq_of_reads (h.next hb.turn) rfl hread
    (hb'.reads (Nat.lt_succ_of_lt hlt) htu) k
  simpa [publishes, hsame] using hb.replaces

/-- The number of a snapshot counts its publications. -/
theorem number_eq_countP (k : Change) (t : Nat) :
    (h.state t).service.number k = (List.range t).countP (h.publishes k) := by
  induction t with
  | zero => cases k <;> rfl
  | succ t ih =>
      rw [List.range_succ, List.countP_append, ← ih, List.countP_singleton]
      cases hp : h.publishes k t with
      | true => exact (h.exists_behind hp).1
      | false => simpa [publishes] using hp

/-- What is not replaced stays. -/
theorem sameSnapshot_of_not_publishes (hp : h.publishes k t = false) :
    (h.state t).service.SameSnapshot (h.state (t + 1)).service k := by
  rcases h.step t with ⟨e, -, hnext⟩ | ⟨-, hsame⟩
  · rcases Machine.snapshot_of_next? (h.reachable t) hnext k with
      hsame | ⟨_, _, -, hnumber, -⟩
    · exact hsame
    · simp [publishes, hnumber] at hp
  · rw [hsame]
    cases k <;> rfl

/-- **An older read never overwrites a newer snapshot.**  In every history of a service, with any
number of calls, with a worker, and with listings that take as long as they like, snapshots are
numbered in the order of their publications: before the first one the number is zero, and the number
of a snapshot is the number of publications so far.  Otherwise a snapshot stays as it is.  Behind
every publication there is a listing, and what is published is what it was answered.  Of two
publications of the same kind, the listing behind the later one began only after the listing behind
the earlier one had ended. -/
theorem publications_in_order (h : History config) :
    (∀ k t, (h.state t).service.number k = (List.range t).countP (h.publishes k)) ∧
    (∀ k t, h.publishes k t = false →
      (h.state t).service.SameSnapshot (h.state (t + 1)).service k) ∧
    (∀ k t, h.publishes k t = true → ∃ i began ended, h.Behind k i began ended t) ∧
    ∀ k i began ended t j began' ended' u, h.Behind k i began ended t →
      h.Behind k j began' ended' u → t < u → ended < began' :=
  ⟨h.number_eq_countP, fun _ _ => h.sameSnapshot_of_not_publishes,
    fun _ _ hp => (h.exists_behind hp).2,
    fun _ _ _ _ _ _ _ _ _ hb hb' htu => Nat.lt_of_lt_of_le hb.order (hb.le_began hb' htu)⟩

/-- A service over an empty store is set up and rebuilt at once.  The rebuild has asked for the
roles when one is put, and is answered that there are none. -/
def lateRole : List Event :=
  [.setup none, .move 0, .move 0, .move 0, .answerRoles 0 (.ok []), .answerClients 0 (.ok []),
    .move 0, .rebuildNow, .move 2, .move 2, .edit (.putRole (.plain "late".toList [] ⟨0, 0⟩)),
    .answerRoles 2 (.ok []), .answerClients 2 (.ok []), .move 2]

/-- The seventh and the fourteenth event publish, and their listings come one after the other. -/
theorem publications_in_order_late :
    ∃ h : History ⟨10, 100⟩, h.events = lateRole ∧
      ∃ i began ended j began' ended', h.Behind .roles i began ended 6 ∧
        h.Behind .roles j began' ended' 13 ∧ ended < began' := by
  let h : History ⟨10, 100⟩ := ⟨.ofEntries [] [], lateRole, rfl⟩
  obtain ⟨-, -, hbehind, horder⟩ := publications_in_order h
  obtain ⟨i, began, ended, hb⟩ := hbehind .roles 6 rfl
  obtain ⟨j, began', ended', hb'⟩ := hbehind .roles 13 rfl
  exact ⟨h, rfl, i, began, ended, j, began', ended', hb, hb',
    horder _ _ _ _ _ _ _ _ _ hb hb' (by decide)⟩

end History
end DelegatedScopes
