import DelegatedScopes.Proofs.Service.Worker
import DelegatedScopes.Proofs.Store.Contents

/-!
# The service — the channel of a setup

Whoever calls for a setup hands over the receiving end of a channel, and it stays with that call, or
with the listener that the call starts, until it is given up for good.  As long as it is there,
every change of the store is waiting in the channel, or has been asked for.

* `Task.Owns`: the receiving end of a channel is with a task.
* `Machine.Owned`: one setup has it, or the listener of that setup, and the channel is open.
* `Machine.News`: no change gets lost between the store and the flags.
* `Machine.storeOp_of_next?`: what of an event the store itself notices.
-/

namespace DelegatedScopes

/-- The receiving end of a channel is with a task: with its listener, or with a setup that has not
ended. -/
def Task.Owns (c : Nat) (t : Task) : Prop :=
  t.duty = .listen c ∨ t.duty = .setup (some c) ∧ ∀ result, t.phase ≠ .ended result

namespace Machine

variable {m m' : Machine} {i j c : Nat} {e : Event} {t t' u : Task} {phase : Phase}

/-- One setup has the receiving end of a channel, or the listener of that setup, and as long as one
of them has it the channel is open. -/
structure Owned (c : Nat) (m : Machine) : Prop where
  unique : ∀ (i j : Nat) (t u : Task), m.tasks[i]? = some t → m.tasks[j]? = some u →
    t.duty = .setup (some c) → u.duty = .setup (some c) → i = j
  handed : ∀ t ∈ m.tasks, t.duty = .listen c →
    ∃ (i : Nat) (result : Except ResolutionError Unit),
      m.tasks[i]? = some ⟨.setup (some c), .ended result⟩
  isOpen : ∀ t ∈ m.tasks, t.Owns c → m.sources.store.isOpen c = true

theorem owned_new (c : Nat) (config : Config) (store : Store) : (new config store).Owned c where
  unique i j t u hi := by simp [new] at hi
  handed := List.forall_mem_nil _
  isOpen := List.forall_mem_nil _

/-! ### Who has the receiving end -/

/-- A channel that is free is with no task. -/
theorem not_owns_of_isFree (h : m.isFree c = true) (ht : t ∈ m.tasks) :
    t.duty ≠ .setup (some c) ∧ t.duty ≠ .listen c := by
  simp only [isFree, hasTaken, Bool.and_eq_true, Bool.not_eq_true', List.any_eq_false] at h
  have hnot := h.2 t ht
  simp only [Bool.or_eq_true, decide_eq_true_eq, not_or] at hnot
  exact hnot

theorem isOpen_of_isFree (h : m.isFree c = true) : m.sources.store.isOpen c = true := by
  rw [isFree, Bool.and_eq_true] at h
  exact h.1

/-- Whoever launches with a channel owns it. -/
theorem Launches.owns {channel : Option Nat} (h : m.Launches i channel m') (hc : channel = some c) :
    ∃ t ∈ m.tasks, t.Owns c := by
  obtain ⟨reload, resolver, clients, ht, -⟩ := h
  exact ⟨_, List.mem_of_getElem? ht, Or.inr ⟨by rw [hc], nofun⟩⟩

/-- A listener is started by the first load, with the channel of its setup. -/
theorem Launches.listener {channel : Option Nat} (h : m.Launches i channel m')
    (hu : u ∈ m'.tasks) (hd : u.duty = .listen c) : u ∈ m.tasks ∨ channel = some c := by
  rw [h.tasks] at hu
  rcases List.mem_append.1 hu with hu | hu
  · rcases List.mem_or_eq_of_mem_set hu with hu | rfl
    · exact Or.inl hu
    · cases hd
  · rcases List.mem_cons.1 hu with rfl | hu
    · cases hd
    · obtain ⟨d, hmem, rfl⟩ := List.mem_map.1 hu
      cases hd
      exact Or.inr (Option.mem_toList.1 hmem)

/-- Whoever has the receiving end had it before, or it was free. -/
theorem owns_of_next? (he : m.next? e = some m') (hu : u ∈ m'.tasks) (ho : u.Owns c) :
    (∃ t ∈ m.tasks, t.Owns c) ∨ m.isFree c = true := by
  obtain ⟨j, hj⟩ := List.mem_iff_getElem?.1 hu
  rcases ho with hd | ⟨hd, hend⟩
  · rcases launches_or he with ⟨i, channel, -, hlaunch⟩ | ⟨-, hkept⟩
    · rcases hlaunch.listener hu hd with hmem | hc
      · exact Or.inl ⟨u, hmem, Or.inl hd⟩
      · exact Or.inl (hlaunch.owns hc)
    · obtain ⟨t, ht, hduty⟩ := hkept j u hj (by rw [hd]; rfl)
      exact Or.inl ⟨t, List.mem_of_getElem? ht, Or.inl (hduty.trans hd)⟩
  · rcases setup_of_next? he hj hd with ⟨t, ht, hduty⟩ | ⟨-, -, hfree⟩
    · refine Or.inl ⟨t, List.mem_of_getElem? ht, Or.inr ⟨hduty, fun result hphase => ?_⟩⟩
      obtain ⟨duty, phase⟩ := t
      obtain rfl : phase = .ended result := hphase
      obtain rfl := Option.some.inj ((ended_of_next? he ht).symm.trans hj)
      exact hend result rfl
    · exact Or.inr (hfree c rfl)

/-- As long as a setup has the receiving end, there is no listener. -/
theorem Owned.no_listener (h : m.Owned c) (ht : m.tasks[i]? = some ⟨.setup (some c), phase⟩)
    (hphase : ∀ result, phase ≠ .ended result) (hu : u ∈ m.tasks) : u.duty ≠ .listen c := by
  intro hd
  obtain ⟨k, result, hk⟩ := h.handed u hu hd
  obtain rfl := h.unique i k _ _ ht hk rfl rfl
  cases Option.some.inj (ht.symm.trans hk)
  exact hphase result rfl

/-- When the setup that has the receiving end comes to an end without a listener, nobody has it. -/
theorem Owned.not_owns_of_ended (h : m.Owned c) (result : Except ResolutionError Unit)
    (ht : m.tasks[i]? = some ⟨.setup (some c), phase⟩) (hphase : ∀ result, phase ≠ .ended result)
    (htasks : m'.tasks = m.tasks.set i ⟨.setup (some c), .ended result⟩) (hu : u ∈ m'.tasks) :
    ¬u.Owns c := by
  intro ho
  have hlt := (List.getElem?_eq_some_iff.1 ht).1
  obtain ⟨j, hj⟩ := List.mem_iff_getElem?.1 hu
  rw [htasks] at hj
  by_cases hij : i = j
  · subst hij
    rw [List.getElem?_set_self hlt] at hj
    cases Option.some.inj hj
    rcases ho with hd | ⟨-, hend⟩
    · cases hd
    · exact hend result rfl
  · rw [List.getElem?_set_ne hij] at hj
    rcases ho with hd | ⟨hd, -⟩
    · exact h.no_listener ht hphase (List.mem_of_getElem? hj) hd
    · exact hij (h.unique i j _ _ ht hj rfl hd)

/-! ### What becomes of a change -/

/-- **No change gets lost** between the store and the flags: what waits in the channel goes on
waiting, or its listener asks for it, and the store keeps its records of a kind or sends that they
changed. -/
structure News (c : Nat) (m : Machine) (e : Event) (m' : Machine) : Prop where
  isOpen : m'.sources.store.isOpen c = true
  kept : ∀ k ∈ m.sources.store.waiting c, k ∈ m'.sources.store.waiting c ∨
    m'.service.asks k = true ∧ ∃ t ∈ m.tasks, t.duty = .listen c
  told : m.sources.store.isFed c = true →
    (∀ change, e = .edit change → m.sources.store.announced change ≠ none →
      m.sources.store.hasRoom c = true) →
    ∀ k, m.sources.store.Keeps m'.sources.store k ∨ k ∈ m'.sources.store.waiting c

/-- Nothing is lost where the channel and the records stay as they are. -/
theorem News.of_keeps (hopen : m.sources.store.isOpen c = true)
    (hch : m'.sources.store.channels[c]? = m.sources.store.channels[c]?)
    (hkeeps : ∀ k, m.sources.store.Keeps m'.sources.store k) : News c m e m' where
  isOpen := by rw [Store.isOpen_congr hch, hopen]
  kept k hk := by
    rw [Store.waiting_congr hch]
    exact Or.inl hk
  told _ _ k := Or.inl (hkeeps k)

theorem News.of_store (hopen : m.sources.store.isOpen c = true)
    (h : m'.sources.store = m.sources.store) : News c m e m' :=
  .of_keeps hopen (by rw [h]) fun k => Store.keeps_of_eq (by rw [h]) (by rw [h]) k

/-- Giving up another channel. -/
theorem News.of_discard {channel : Option Nat} (hopen : m.sources.store.isOpen c = true)
    (hne : channel ≠ some c) (h : m'.sources.store = (m.discard channel).sources.store) :
    News c m e m' := by
  cases channel with
  | none => exact .of_store hopen h
  | some d =>
      have hd : d ≠ c := fun hd => hne (hd ▸ rfl)
      refine .of_keeps hopen ?_ fun k => Store.keeps_of_eq (by rw [h]; rfl) (by rw [h]; rfl) k
      rw [h]
      exact m.sources.store.channel_onChannel_ne hd Channel.close

theorem store_failRebuild (m : Machine) (i : Nat) (channel : Option Nat) (cause : ResolutionError) :
    (m.failRebuild i (.setup channel) cause).sources.store = (m.discard channel).sources.store := by
  cases channel <;> rfl

theorem store_leaveRebuild_ok (m : Machine) (i : Nat) (duty : Duty) :
    (m.leaveRebuild i duty (.ok ())).sources.store = m.sources.store := by
  cases duty with
  | setup channel => cases channel <;> rfl
  | _ => rfl

theorem store_enterRebuild (m : Machine) (i : Nat) (reload : Reload) :
    (m.enterRebuild i reload).sources.store = m.sources.store := by
  rw [enterRebuild]
  split
  · rw [setPhase, Sources.arrive]
    dsimp only
    split <;> rfl
  · rfl

/-- A move of a task loses nothing of what waits in a channel. -/
theorem Move.news (h : Move m i e m') (ho : m.Owned c) (hown : ∃ u ∈ m'.tasks, u.Owns c)
    (hopen : m.sources.store.isOpen c = true) : News c m e m' := by
  obtain ⟨u, hu, howns⟩ := hown
  cases h with
  | @skipSetup channel ht hi =>
      refine .of_discard hopen (fun hc => ?_) rfl
      subst hc
      refine ho.not_owns_of_ended (.ok ()) ht nofun ?_ hu howns
      exact (turn_skipSetup ht hi).tasks.trans (List.append_nil _)
  | @refused duty reload stage _ cause ht why =>
      cases duty with
      | setup channel =>
          refine .of_discard hopen (fun hc => ?_) (store_failRebuild m i channel cause)
          subst hc
          refine ho.not_owns_of_ended (.error cause) ht nofun ?_ hu howns
          exact (tasks_leaveRebuild (m := m.mapService Service.giveUp) ht (.error cause)).trans
            (List.append_nil _)
      | _ => exact .of_store hopen rfl
  | enterRebuild => exact .of_store hopen (store_enterRebuild m i _)
  | publish => exact .of_store hopen (store_leaveRebuild_ok _ i _)
  | @hear channel change store ht hr =>
      obtain ⟨ch, rest, hch, hw, rfl⟩ := Store.receive?_eq_some hr
      by_cases hc : channel = c
      · subst hc
        refine ⟨?_, fun k hk => ?_, fun _ _ k => Or.inl (Store.keeps_of_eq rfl rfl k)⟩
        · have htaken : (m.sources.store.onChannel channel fun _ =>
              { ch with waiting := rest }).isOpen channel = m.sources.store.isOpen channel :=
            m.sources.store.isOpen_onChannel hch rfl
          exact htaken.trans hopen
        · rcases m.sources.store.waiting_onChannel hch hw hk with hk | rfl
          · exact Or.inl hk
          · refine Or.inr ⟨?_, _, List.mem_of_getElem? ht, rfl⟩
            refine (m.service.asks_request k k).trans ?_
            simp
      · refine .of_keeps hopen ?_ fun k => Store.keeps_of_eq rfl rfl k
        exact m.sources.store.channel_onChannel_ne hc _
  | _ => exact .of_store hopen rfl

/-- Whatever happens, nothing is lost of what a channel with an owner is to learn. -/
theorem news_of_next? (ho : m.Owned c) (he : m.next? e = some m')
    (hown : ∃ u ∈ m'.tasks, u.Owns c) (hopen : m.sources.store.isOpen c = true) :
    News c m e m' := by
  have hnot : ∀ {d}, m.isFree d = true → (∃ u ∈ m.tasks, u.Owns c) → d ≠ c := by
    rintro d hfree ⟨t, ht, howns⟩ rfl
    have hno := not_owns_of_isFree hfree ht
    exact howns.elim hno.2 fun hs => hno.1 hs.1
  cases step_of_next? he with
  | move h => exact h.news ho hown hopen
  | edit change =>
      refine ⟨Store.isOpen_edited hopen change, fun k hk => ?_, fun hfed hroom k => ?_⟩
      · exact Or.inl (Store.mem_waiting_edited_of_mem hk change)
      · by_cases hk : m.sources.store.announced change = some k
        · have hroom' := hroom change rfl (by rw [hk]; exact nofun)
          exact Or.inr (Store.mem_waiting_edited hopen hfed hroom' hk)
        · exact Or.inl (m.sources.store.keeps_edited change hk)
  | deliver h =>
      rw [deliver?] at h
      split at h
      · cases h
      · obtain rfl := Option.some.inj h
        split
        · rename_i store ht
          have hch : store.channels = m.sources.store.channels := by
            rw [Store.touch_eq_ok ht]
            rfl
          refine .of_keeps hopen ?_ fun k => Store.keeps_touch ht k
          change store.channels[c]? = _
          rw [hch]
        · exact .of_store hopen rfl
  | subscribe capacity =>
      refine .of_keeps hopen (m.sources.store.channel_subscribe hopen capacity) fun k => ?_
      exact Store.keeps_of_eq rfl rfl k
  | @receive channel change store hfree hr =>
      obtain ⟨ch, rest, hch, hw, rfl⟩ := Store.receive?_eq_some hr
      refine .of_keeps hopen ?_ fun k => Store.keeps_of_eq rfl rfl k
      exact m.sources.store.channel_onChannel_ne (hnot hfree hown) _
  | @close channel hfree =>
      refine .of_keeps hopen ?_ fun k => Store.keeps_of_eq rfl rfl k
      exact m.sources.store.channel_onChannel_ne (hnot hfree hown) _
  | _ => exact .of_store hopen rfl

theorem storeOp_discard (m : Machine) (channel : Option Nat) :
    m.sources.store.Op (m.discard channel).sources.store := by
  cases channel with
  | none => exact .same
  | some c => exact .closed c

theorem Move.storeOp (h : Move m i e m') : m.sources.store.Op m'.sources.store := by
  cases h with
  | @skipSetup channel => exact m.storeOp_discard channel
  | @refused duty _ _ _ cause =>
      cases duty with
      | setup channel => exact store_failRebuild m i channel cause ▸ m.storeOp_discard channel
      | _ => exact .same
  | enterRebuild => exact (store_enterRebuild m i _).symm ▸ .same
  | publish => exact (store_leaveRebuild_ok _ i _).symm ▸ .same
  | hear _ hr => exact .received hr
  | _ => exact .same

/-- **The store changes by its own operations only.** -/
theorem storeOp_of_next? (he : m.next? e = some m') : m.sources.store.Op m'.sources.store := by
  cases step_of_next? he with
  | move hmove => exact hmove.storeOp
  | edit change => exact .edited change
  | deliver hd =>
      rw [deliver?] at hd
      split at hd
      · cases hd
      · obtain rfl := Option.some.inj hd
        split
        · rename_i store ht
          exact .touched ht
        · exact .same
  | subscribe capacity => exact .subscribed capacity
  | receive _ hr => exact .received hr
  | @close channel => exact .closed channel
  | _ => exact .same

/-- The newest channel was the newest before, once it was there. -/
theorem isFed_of_next? (he : m.next? e = some m') (hopen : m.sources.store.isOpen c = true)
    (hfed : m'.sources.store.isFed c = true) : m.sources.store.isFed c = true := by
  obtain ⟨ch, hch, -⟩ := Store.isOpen_iff.1 hopen
  obtain ⟨hlt, -⟩ := Array.getElem?_eq_some_iff.1 hch
  have hle := (storeOp_of_next? he).size_le
  simp only [Store.isFed, beq_iff_eq] at hfed ⊢
  omega

/-! ### The owner stays -/

/-- A setup ends with the launch. -/
theorem Launches.ended {channel : Option Nat} (h : m.Launches i channel m') :
    m'.tasks[i]? = some ⟨.setup channel, .ended (.ok ())⟩ := by
  have htasks := h.tasks
  obtain ⟨reload, resolver, clients, ht, -⟩ := h
  have hlt := (List.getElem?_eq_some_iff.1 ht).1
  rw [htasks, List.getElem?_append_left (by simpa using hlt), List.getElem?_set_self hlt]

/-- **Whoever has the receiving end keeps it until it is given up.** -/
theorem Owned.next (h : m.Owned c) (he : m.next? e = some m') : m'.Owned c := by
  refine ⟨fun i j t u hi hj ht hu => ?_, fun u hu hd => ?_, fun u hu howns => ?_⟩
  · have hold : ∀ {t₀ : Task} {k : Nat}, m.tasks[k]? = some t₀ → t₀.duty = .setup (some c) →
        ¬m.isFree c = true := fun hk hd hfree =>
      (not_owns_of_isFree hfree (List.mem_of_getElem? hk)).1 hd
    rcases setup_of_next? he hi ht with ⟨t₀, hi₀, ht₀⟩ | ⟨hi₀, -, hfree⟩
    · rcases setup_of_next? he hj hu with ⟨u₀, hj₀, hu₀⟩ | ⟨-, -, hfree⟩
      · exact h.unique i j t₀ u₀ hi₀ hj₀ ht₀ hu₀
      · exact absurd (hfree c rfl) (hold hi₀ ht₀)
    · rcases setup_of_next? he hj hu with ⟨u₀, hj₀, hu₀⟩ | ⟨hj₀, -, -⟩
      · exact absurd (hfree c rfl) (hold hj₀ hu₀)
      · rw [hi₀, hj₀]
  · have hold : ∀ t ∈ m.tasks, t.duty = .listen c →
        ∃ (i : Nat) (result : Except ResolutionError Unit),
          m'.tasks[i]? = some ⟨.setup (some c), .ended result⟩ := fun t ht hd => by
      obtain ⟨i, result, hi⟩ := h.handed t ht hd
      exact ⟨i, result, ended_of_next? he hi⟩
    rcases launches_or he with ⟨i, channel, -, hlaunch⟩ | ⟨-, hkept⟩
    · rcases hlaunch.listener hu hd with hmem | rfl
      · exact hold u hmem hd
      · exact ⟨i, _, hlaunch.ended⟩
    · obtain ⟨j, hj⟩ := List.mem_iff_getElem?.1 hu
      obtain ⟨t, ht, hduty⟩ := hkept j u hj (by rw [hd]; rfl)
      exact hold t (List.mem_of_getElem? ht) (hduty.trans hd)
  · rcases owns_of_next? he hu howns with ⟨t, ht, hown⟩ | hfree
    · exact (news_of_next? h he ⟨u, hu, howns⟩ (h.isOpen t ht hown)).isOpen
    · exact (news_of_next? h he ⟨u, hu, howns⟩ (isOpen_of_isFree hfree)).isOpen

theorem Reachable.owned {config : Config} (h : Reachable config m) (c : Nat) : m.Owned c :=
  Reachable.keeps (fun he ha => ha.next he) (owned_new c config) h

end Machine
end DelegatedScopes
