import DelegatedScopes.Proofs.Service.Reading

/-!
# The service — changes reach the snapshots

A service that listens to its store does not stay behind it.  Whatever happens in whatever order, a
change of the store that the snapshots do not show is still on its way: it waits in the channel, or
has been asked for, or the worker is about to read what changed.  So when nothing is on its way and
nobody rebuilds, the snapshots show what the store has.

* `Machine.Due`, `Machine.Settled`: a kind of record is to be read again, or needs not to be.
* `Machine.due_or_settled_of_next?`: every event keeps one of the two.
* `Machine.Tracked`: so does the setup that has the channel, before there is a listener.
* `Machine.changes_reach_snapshots`: the snapshots when nothing is on its way.
-/

namespace DelegatedScopes

namespace Machine

variable {m m' : Machine} {i j c : Nat} {e : Event} {k : Change}

/-- A kind of record is to be read again: a change of it waits in the channel, it has been asked
for, or the worker was asked for it and has not read it yet. -/
def Due (c : Nat) (m : Machine) (k : Change) : Prop :=
  k ∈ m.sources.store.waiting c ∨ m.service.asks k = true ∨
    ∃ (i : Nat) (reload : Reload) (stage : Stage),
      m.tasks[i]? = some ⟨.work, .rebuilding reload stage⟩ ∧ reload.asks k = true ∧
        stage.has k = false

/-- The worker has read a kind of record, and has yet to publish it. -/
def InHand (m : Machine) (k : Change) : Prop :=
  ∃ (i : Nat) (reload : Reload) (stage : Stage),
    m.tasks[i]? = some ⟨.work, .rebuilding reload stage⟩ ∧ stage.has k = true

/-- A kind of record needs not be read again: the snapshots show what the store has, or will when
the worker publishes what it has read. -/
structure Settled (m : Machine) (k : Change) : Prop where
  current : m.Current k
  shown : m.service.Shows m.sources.store k ∨ m.InHand k

/-! ### Settled, or due -/

/-- **What needs not be read again stays so** while the store keeps its records. -/
theorem Settled.next (h : m.Settled k) (hs : m.sources.store.Lawful) (he : m.next? e = some m')
    (hp : Faithful c m e m') (hk : m.sources.store.Keeps m'.sources.store k) : m'.Settled k where
  current := h.current.next hs he hp hk
  shown := by
    have hconfig := config_of_next? he
    rcases h.shown with hshow | ⟨j, reload, stage, hj, hhas⟩
    · rcases published_of_next? he with ⟨hresolver, htable⟩ | ⟨i, _, _, _, _, hi, -, hpublished⟩
      · exact Or.inl ((hshow.congr hconfig hresolver htable).keeps hk)
      · have hread := h.current _ _ _ _ hi
        exact Or.inl ((hpublished.shows hconfig hread fun _ => hshow).keeps hk)
    · rcases worker_of_next? he hp hj with ⟨stage', hj', hstage⟩ | ⟨_, _, rfl, hpublished⟩
      · refine Or.inr ⟨j, reload, stage', hj', ?_⟩
        rcases hstage with rfl | hnext
        · exact hhas
        · exact hnext.has hhas
      · have hread := h.current _ _ _ _ hj
        refine Or.inl (Service.Shows.keeps (hpublished.shows hconfig hread fun hno => ?_) hk)
        rw [hhas] at hno
        cases hno

/-- **What is to be read again is not forgotten** until the worker has read it. -/
theorem Due.next (h : Due c m k) (hs : m.sources.store.Lawful) (hfit : m.Fitting)
    (hl : m'.Locked) (he : m.next? e = some m') (hp : Faithful c m e m') (hnews : News c m e m')
    (hk : m.sources.store.Keeps m'.sources.store k) : Due c m' k ∨ m'.Settled k := by
  rcases h with hwait | hasks | ⟨j, reload, stage, hj, hreload, hhas⟩
  · exact Or.inl ((hnews.kept k hwait).imp_right fun hasks => Or.inl hasks.1)
  · refine Or.inl (Or.inr ?_)
    rcases flags_of_next? he with hsame | ⟨change, hreq⟩ | ⟨i, -, -, rfl⟩ | ⟨i, -, hi, rfl⟩
    · exact Or.inl ((Service.asks_congr hsame k).trans hasks)
    · refine Or.inl ((Service.asks_congr hreq k).trans ?_)
      rw [Service.asks_request, hasks, Bool.true_or]
    · exact Or.inl (by cases k <;> exact hasks)
    · -- the worker takes over what was asked for
      refine Or.inr ⟨i, ⟨m.service.pendingRoles, m.service.pendingClients⟩, .queued,
        getElem?_setPhase (m := m.mapService _) hi _, ?_, by cases k <;> rfl⟩
      cases k <;> exact hasks
  · rcases worker_of_next? he hp hj with ⟨stage', hj', hstage⟩ | ⟨resolver, clients, rfl, -⟩
    · cases hhas' : stage'.has k with
      | false => exact Or.inl (Or.inr (Or.inr ⟨j, reload, stage', hj', hreload, hhas'⟩))
      | true =>
          rcases hstage with rfl | hnext
          · rw [hhas] at hhas'
            cases hhas'
          · have hshow := (hnext.shows hs hp (Stage.shows_of_not_has hhas)).keeps hk
            rw [← config_of_next? he] at hshow
            exact Or.inr ⟨current_of_reading hl hj' (hnext.not_queued .work) hshow,
              Or.inr ⟨j, reload, stage', hj', hhas'⟩⟩
    · obtain ⟨hfits, -⟩ := hfit _ (List.mem_of_getElem? hj)
      rw [Stage.has_of_fits hfits, hreload] at hhas
      cases hhas

/-- **A change is on its way, or is shown.** -/
theorem due_or_settled_of_next? (h : Due c m k ∨ m.Settled k) (hs : m.sources.store.Lawful)
    (hfit : m.Fitting) (hl : m'.Locked) (he : m.next? e = some m') (hp : Faithful c m e m')
    (hnews : News c m e m') (hfed : m.sources.store.isFed c = true) :
    Due c m' k ∨ m'.Settled k := by
  rcases hnews.told hfed hp.room k with hk | hwait
  · rcases h with hdue | hsettled
    · exact hdue.next hs hfit hl he hp hnews hk
    · exact Or.inr (hsettled.next hs he hp hk)
  · exact Or.inl (Or.inl hwait)

/-! ### From the first load on -/

/-- As long as nobody else subscribes: what the setup that has the channel has read is what the
store has, or a change waits in the channel; and as soon as there is a listener, every kind of
record is due or settled. -/
structure Tracked (c : Nat) (m : Machine) : Prop where
  loading : m.sources.store.isFed c = true → ∀ (i : Nat) (reload : Reload) (stage : Stage),
    m.tasks[i]? = some ⟨.setup (some c), .rebuilding reload stage⟩ →
      ∀ k, k ∈ m.sources.store.waiting c ∨
        stage.Shows m.sources.store m.service.config.maxSteps k
  listening : m.sources.store.isFed c = true → (∃ t ∈ m.tasks, t.duty = .listen c) →
    ∀ k, Due c m k ∨ m.Settled k

theorem tracked_new (c : Nat) (config : Config) (store : Store) : (new config store).Tracked c where
  loading _ i reload stage hi := by simp [new] at hi
  listening _ := by simp [new]

/-- What the first load reads stays current, or a change of it waits. -/
theorem Tracked.loading_next (h : m.Tracked c) (ho : m.Owned c) (hs : m.sources.store.Lawful)
    (he : m.next? e = some m') (hp : Faithful c m e m')
    (hfed : m'.sources.store.isFed c = true) {reload : Reload} {stage : Stage}
    (hi : m'.tasks[i]? = some ⟨.setup (some c), .rebuilding reload stage⟩) (k : Change) :
    k ∈ m'.sources.store.waiting c ∨
      stage.Shows m'.sources.store m'.service.config.maxSteps k := by
  have hgo : ∀ earlier, m.tasks[i]? = some ⟨.setup (some c), .rebuilding reload earlier⟩ →
      (earlier.Shows m.sources.store m.service.config.maxSteps k →
        stage.Shows m.sources.store m.service.config.maxSteps k) →
      k ∈ m'.sources.store.waiting c ∨
        stage.Shows m'.sources.store m'.service.config.maxSteps k := by
    intro earlier hi₀ hstage
    have hopen := ho.isOpen _ (List.mem_of_getElem? hi₀) (Or.inr ⟨rfl, nofun⟩)
    have hnews := news_of_next? ho he ⟨_, List.mem_of_getElem? hi, Or.inr ⟨rfl, nofun⟩⟩ hopen
    have hfed₀ := isFed_of_next? he hopen hfed
    rcases hnews.told hfed₀ hp.room k with hk | hwait
    · rcases h.loading hfed₀ i reload earlier hi₀ k with hwait | hshow
      · rcases hnews.kept k hwait with hwait | ⟨-, t, ht, hlisten⟩
        · exact Or.inl hwait
        · exact absurd hlisten (ho.no_listener hi₀ nofun ht)
      · rw [config_of_next? he]
        exact Or.inr ((hstage hshow).keeps hk)
    · exact Or.inl hwait
  rcases rebuilding_of_next? he hi with hi₀ | rfl | ⟨earlier, hi₀, hnext⟩
  · exact hgo stage hi₀ id
  · exact Or.inr (Stage.shows_of_not_has (by cases k <;> rfl))
  · exact hgo earlier hi₀ (hnext.shows hs hp)

/-- **The first load settles everything that is not due.** -/
theorem Tracked.launched (h : m.Tracked c) (ho : m.Owned c) (hs : m.sources.store.Lawful)
    (hl : m.Locked) (hfit : m.Fitting) (he : m.next? e = some m') (hp : Faithful c m e m')
    (hlaunch : m.Launches i (some c) m') (hlisten : ∃ t ∈ m'.tasks, t.duty = .listen c)
    (hfed : m'.sources.store.isFed c = true) (k : Change) : Due c m' k ∨ m'.Settled k := by
  obtain ⟨t, ht, hd⟩ := hlisten
  obtain ⟨u, hu, howns⟩ := hlaunch.owns rfl
  have hopen := ho.isOpen u hu howns
  have hnews := news_of_next? ho he ⟨t, ht, Or.inl hd⟩ hopen
  have hfed₀ := isFed_of_next? he hopen hfed
  obtain ⟨reload, resolver, clients, hi, hm⟩ := hlaunch
  have hpublished : m.service.Replaced resolver clients m'.service := by
    rw [hm, service_leaveRebuild_ok]
    exact m.service.replaced_publish resolver clients _
  rcases hnews.told hfed₀ hp.room k with hk | hwait
  · rcases h.loading hfed₀ i reload _ hi k with hwait | hshow
    · exact Or.inl ((hnews.kept k hwait).imp_right fun hasks => Or.inl hasks.1)
    · refine Or.inr ⟨(current_of_reading hl hi rfl hshow).next hs he hp hk, Or.inl ?_⟩
      refine Service.Shows.keeps (hpublished.shows (config_of_next? he) hshow fun hno => ?_) hk
      obtain ⟨hfits, hall⟩ := hfit _ (List.mem_of_getElem? hi)
      rw [Stage.has_of_fits hfits, hall _ rfl] at hno
      cases k <;> cases hno
  · exact Or.inl (Or.inl hwait)

theorem Tracked.next {config : Config} (h : m.Tracked c) (hr : Reachable config m)
    (hs : m.sources.store.Lawful) (he : m.next? e = some m') (hp : Faithful c m e m') :
    m'.Tracked c where
  loading hfed _ _ _ hi := h.loading_next (hr.owned c) hs he hp hfed hi
  listening hfed hlisten k := by
    have ho := hr.owned c
    obtain ⟨u, hu, hd⟩ := hlisten
    have hgo : (∃ t ∈ m.tasks, t.duty = .listen c) → Due c m' k ∨ m'.Settled k := by
      rintro ⟨t, ht, htd⟩
      have hopen := ho.isOpen t ht (Or.inl htd)
      have hfed₀ := isFed_of_next? he hopen hfed
      exact due_or_settled_of_next? (h.listening hfed₀ ⟨t, ht, htd⟩ k) hs hr.fitting
        (hr.next he).locked he hp (news_of_next? ho he ⟨u, hu, Or.inl hd⟩ hopen) hfed₀
    rcases launches_or he with ⟨i, channel, -, hlaunch⟩ | ⟨-, hkept⟩
    · rcases hlaunch.listener hu hd with hmem | rfl
      · exact hgo ⟨u, hmem, hd⟩
      · exact h.launched ho hs hr.locked hr.fitting he hp hlaunch ⟨u, hu, hd⟩ hfed k
    · obtain ⟨j, hj⟩ := List.mem_iff_getElem?.1 hu
      obtain ⟨t, ht, hduty⟩ := hkept j u hj (by rw [hd]; rfl)
      exact hgo ⟨t, List.mem_of_getElem? ht, hduty.trans hd⟩

/-- A service over a store with the given entries, along a run that is faithful to the store. -/
theorem tracked_of_run {config : Config} {roles : List Role} {clients : List Client}
    {events : List Event} (h : Run (Faithful c) (new config (.ofEntries roles clients)) events m) :
    Reachable config m ∧ m.sources.store.Lawful ∧ m.Tracked c := by
  refine Run.keeps (I := fun m => Reachable config m ∧ m.sources.store.Lawful ∧ m.Tracked c)
    (fun he hp ⟨hr, hs, ht⟩ => ⟨hr.next he, hs.op (storeOp_of_next? he), ht.next hr hs he hp⟩) h ?_
  exact ⟨⟨_, [], .start⟩, Store.lawful_ofEntries roles clients, tracked_new c config _⟩

theorem listener_of_run {P : Condition} {events : List Event} (h : Run P m events m')
    (hm : ∃ t ∈ m.tasks, t.duty = .listen c) : ∃ t ∈ m'.tasks, t.duty = .listen c := by
  refine h.keeps (I := fun m => ∃ t ∈ m.tasks, t.duty = .listen c) ?_ hm
  rintro a e b he - ⟨t, ht, hd⟩
  obtain ⟨j, hj⟩ := List.mem_iff_getElem?.1 ht
  obtain ⟨u, hu, hduty⟩ := duty_of_next? he hj
  exact ⟨u, List.mem_of_getElem? hu, hduty.trans hd⟩

/-- When nothing is on its way and nobody rebuilds, what is due or settled is shown. -/
theorem shows_of_quiet (h : Due c m k ∨ m.Settled k) (hwait : m.sources.store.waiting c = [])
    (hasks : m.service.asks k = false) (hquiet : ∀ t ∈ m.tasks, t.inRebuild = false) :
    m.service.Shows m.sources.store k := by
  have hnobody : ∀ {i : Nat} {reload : Reload} {stage : Stage},
      m.tasks[i]? ≠ some ⟨.work, .rebuilding reload stage⟩ := fun hi => by
    cases hquiet _ (List.mem_of_getElem? hi)
  rcases h with (hmem | hk | ⟨_, _, _, hi, -⟩) | ⟨-, hshow | ⟨_, _, _, hi, -⟩⟩
  · rw [hwait] at hmem
    cases hmem
  · rw [hasks] at hk
    cases hk
  · exact absurd hi hnobody
  · exact hshow
  · exact absurd hi hnobody

/-- **Changes reach the snapshots.**  Take a service over a store, and a run that is faithful to the
store.  Let a setup that was given a channel be the first to succeed, and let nobody have subscribed
since that channel was made.  Whenever the channel is empty after that, nothing is asked for and
nobody rebuilds, the resolver is the one that the roles of the store give and knows just these, and
the table has the clients of the store, last uses aside.  And whenever something is asked for, the
worker does not sleep without having been woken. -/
theorem changes_reach_snapshots {config : Config} {roles : List Role} {clients : List Client}
    {a b : Machine} {events rest : List Event}
    (hrun : Run (Faithful c) (new config (.ofEntries roles clients)) events a)
    (hfirst : a.service.started = false) (he : a.next? e = some b) (hp : Faithful c a e b)
    (hi : e.mover? = some i) (hend : b.tasks[i]? = some ⟨.setup (some c), .ended (.ok ())⟩)
    (hrest : Run (Faithful c) b rest m) (hfed : m.sources.store.isFed c = true) :
    (m.sources.store.waiting c = [] → (∀ k, m.service.asks k = false) →
      (∀ t ∈ m.tasks, t.inRebuild = false) →
        m.sources.store.Gives config.maxSteps m.service.resolver ∧
        (∀ id : Text, m.service.resolver.role? id = m.sources.store.roles[id]?) ∧
        SameClients m.service.table.clients m.sources.store.clients) ∧
    ∀ (j : Nat) (k : Change), m.tasks[j]? = some ⟨.work, .parked⟩ →
      m.service.asks k = true → m.service.awake = true := by
  obtain ⟨hr, hs, htracked⟩ := tracked_of_run ((hrun.next he hp).trans hrest)
  have hlisten : ∃ t ∈ m.tasks, t.duty = .listen c := by
    refine listener_of_run hrest ⟨⟨.listen c, .fresh⟩, ?_, rfl⟩
    rw [(launches_of_ended he hi hfirst hend).tasks]
    simp [Duty.spawned]
  refine ⟨fun hwait hasks hquiet => ?_, fun j k hj hk => hr.awake_of_parked hj hk⟩
  have hshow : ∀ k, m.service.Shows m.sources.store k := fun k =>
    shows_of_quiet (htracked.listening hfed hlisten k) hwait (hasks k) hquiet
  have hgives : m.sources.store.Gives config.maxSteps m.service.resolver :=
    hr.config_eq ▸ hshow .roles
  exact ⟨hgives, hs.role?_of_gives hgives, hshow .clients⟩

/-- The role that is put into the store while the service is set up. -/
def porch : Role := .plain "porch".toList [] ⟨0, 0⟩

/-- A service with a channel is set up.  It has read the roles when one more is put. -/
def porchOpening : List Event :=
  [.subscribe 8, .setup (some 0), .move 0, .move 0, .move 0, .answerRoles 0 (.ok []),
    .edit (.putRole porch), .answerClients 0 (.ok [])]

/-- The listener hears of it, and the worker rebuilds. -/
def porchNews : List Event :=
  [.move 1, .move 2, .move 2, .move 1, .move 1, .move 1, .answerRoles 1 (.ok [porch]), .move 1,
    .move 1]

/-- The role arrives. -/
theorem changes_reach_snapshots_porch :
    ∃ a b m, Run (Faithful 0) (new ⟨10, 100⟩ (.ofEntries [] [])) porchOpening a ∧
      a.next? (.move 0) = some b ∧ Run (Faithful 0) b porchNews m ∧
      m.service.resolver.role? "porch".toList = some porch := by
  -- every answer lists what the store has, and the channel has room for the one change
  obtain ⟨a, hrun, hfirst, b, he, hp, hend, m, hrest, hfed, hwait, hroles, hclients, hquiet,
      hrole⟩ : ∃ a, Run (Faithful 0) (new ⟨10, 100⟩ (.ofEntries [] [])) porchOpening a ∧
      a.service.started = false ∧
      ∃ b, a.next? (.move 0) = some b ∧ Faithful 0 a (.move 0) b ∧
      b.tasks[0]? = some ⟨.setup (some 0), .ended (.ok ())⟩ ∧
      ∃ m, Run (Faithful 0) b porchNews m ∧ m.sources.store.isFed 0 = true ∧
      m.sources.store.waiting 0 = [] ∧ m.service.asks .roles = false ∧
      m.service.asks .clients = false ∧ m.tasks.all (fun t => !t.inRebuild) = true ∧
      m.sources.store.roles["porch".toList]? = some porch := by
    refine ⟨_, .cons rfl (.plain rfl rfl) <| .cons rfl (.plain rfl rfl) <|
        .cons rfl (.plain rfl rfl) <| .cons rfl (.plain rfl rfl) <| .cons rfl (.plain rfl rfl) <|
        .cons rfl ⟨?_, nofun, nofun, fun _ _ _ _ _ => rfl⟩ <|
        .cons rfl ⟨nofun, nofun, fun _ _ _ => rfl, fun _ _ _ _ _ => rfl⟩ <|
        .cons rfl ⟨nofun, ?_, nofun, fun _ _ _ _ _ => rfl⟩ .start,
      rfl, _, rfl, .plain rfl rfl, rfl,
      _, .cons rfl (.plain rfl rfl) <| .cons rfl (.plain rfl rfl) <|
        .cons rfl (.plain rfl rfl) <| .cons rfl (.plain rfl rfl) <| .cons rfl (.plain rfl rfl) <|
        .cons rfl (.plain rfl rfl) <| .cons rfl ⟨?_, nofun, nofun, fun _ _ _ _ _ => rfl⟩ <|
        .cons rfl (.plain rfl rfl) <| .cons rfl (.plain rfl rfl) .start,
      rfl, rfl, rfl, rfl, rfl, rfl⟩
    all_goals intro _ _ h; cases h; exact .refl _
  have hasks : ∀ k, m.service.asks k = false := fun k => by cases k <;> assumption
  obtain ⟨-, hknown, -⟩ := (changes_reach_snapshots hrun hfirst he hp rfl hend hrest hfed).1 hwait
    hasks (by simpa using hquiet)
  exact ⟨a, b, m, hrun, he, hrest, (hknown _).trans hrole⟩

end Machine
end DelegatedScopes
