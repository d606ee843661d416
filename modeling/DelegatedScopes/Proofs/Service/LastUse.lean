import DelegatedScopes.Proofs.Instant
import DelegatedScopes.Proofs.Service.Uses

/-!
# The service — last uses

What is known of the last use of a client lags behind in many places: the table behind the clients
that a rebuild has in hand, these behind the store, the store behind the notes on their way.  The
service remembers its last note for as long as the table is behind it.  When the table has caught up
there is nothing on its way either, and all places agree (`Machine.Level`).  So the later one of
what the table has and of what is remembered is always the last use that is known anywhere.

* `Machine.Paced`: one last time, and everything else in its order behind it.
* `Machine.Paced.load`, `Machine.Paced.next`: a load of the client, and whatever else happens.
* `Machine.Undisturbed`: the clients of the store are left to the service.
* `History.notes`, `History.reports`: the notes about a client, and the last uses it is given with.
* `History.last_uses_paced`: notes are spaced by the delay, and last uses never go back.
-/

namespace DelegatedScopes

variable {a b c : Option Instant}

/-- If there is the one time, there is the other, and it is no earlier. -/
def UpTo (a b : Option Instant) : Prop :=
  ∀ x, a = some x → ∃ y, b = some y ∧ x.noLater y = true

theorem UpTo.refl (a : Option Instant) : UpTo a a := fun x h => ⟨x, h, x.noLater_refl⟩

theorem UpTo.trans (h : UpTo a b) (h' : UpTo b c) : UpTo a c := fun x hx => by
  obtain ⟨y, hy, hxy⟩ := h x hx
  obtain ⟨z, hz, hyz⟩ := h' y hy
  exact ⟨z, hz, Instant.noLater_trans hxy hyz⟩

namespace Machine

variable {m m' : Machine} {id : Text} {last : Option Instant} {top now : Instant} {i : Nat}
  {e : Event} {config : Config}

/-- Every time that is known of a client is as late as a given one, and nothing is on its way. -/
structure Level (id : Text) (top : Instant) (m : Machine) : Prop where
  touched : m.service.touched[id]? = none
  notes : m.service.notesOf id = []
  table : ∀ x, m.tableUse id = some x → top.noLater x = true
  store : ∀ x, m.storeUse id = some x → top.noLater x = true
  hand : ∀ i listed, m.HasInHand i listed →
    ∀ x, lastUseIn (byKey Client.id listed) id = some x → top.noLater x = true

/-- The service remembers when it last issued a note about a client of its table. -/
structure Ahead (id : Text) (last : Option Instant) (top : Instant) (m : Machine) : Prop where
  issued : last = some top
  touched : m.service.touched[id]? = some top
  known : (m.tableUse id).isSome = true

/-- What is known of the last use of a client.  The table may be behind what a rebuild has in hand,
that may be behind the store, the store behind the notes on their way, in their order; and nothing
is ahead of one last time, which is recalled. -/
structure Paced (id : Text) (last : Option Instant) (top : Instant) (m : Machine) : Prop where
  latest : ∀ w, last = some w → w = top
  table : UpTo (m.tableUse id) (m.storeUse id)
  hand : ∀ i listed, m.HasInHand i listed →
    UpTo (m.tableUse id) (lastUseIn (byKey Client.id listed) id) ∧
      UpTo (lastUseIn (byKey Client.id listed) id) (m.storeUse id)
  sorted : ((m.storeUse id).toList ++ m.service.notesOf id).Pairwise fun x y => x.earlier y = true
  bound : ∀ x ∈ (m.storeUse id).toList ++ m.service.notesOf id, x.noLater top = true
  recalled : m.Level id top ∨ m.Ahead id last top

theorem Paced.tableUse_noLater (h : m.Paced id last top) {x : Instant}
    (hx : m.tableUse id = some x) : x.noLater top = true := by
  obtain ⟨y, hy, hxy⟩ := h.table x hx
  exact Instant.noLater_trans hxy (h.bound y (by simp [hy]))

/-- **The service can tell when a client was last used.** -/
theorem Paced.lastUse_eq (h : m.Paced id last top) {c : Client}
    (hc : m.service.table.clients[id]? = some c) (hid : c.id = id) :
    m.service.lastUse c = top ∧ ∀ v, m.service.touched[c.id]? = some v → v = top := by
  have hx : m.tableUse id = some c.details.lastUsed := by rw [tableUse, lastUseIn, hc]; rfl
  have hle := h.tableUse_noLater hx
  rw [Service.lastUse, hid]
  rcases h.recalled with hl | ha
  · rw [hl.touched]
    exact ⟨Instant.noLater_antisymm hle (hl.table _ hx), by simp⟩
  · rw [ha.touched]
    exact ⟨Instant.latest_eq_left hle, fun v hv => (Option.some.inj hv).symm⟩

/-- When the store has the last time, no note is on its way. -/
theorem Paced.notesOf_eq_nil (h : m.Paced id last top) {z : Instant} (hz : m.storeUse id = some z)
    (htop : top.noLater z = true) : m.service.notesOf id = [] := by
  refine List.eq_nil_iff_forall_not_mem.2 fun n hn => ?_
  have hsorted := h.sorted
  rw [hz, Option.toList_some, List.singleton_append, List.pairwise_cons] at hsorted
  have hbound : n.noLater top = true := h.bound n (List.mem_append_right _ hn)
  -- otherwise the note is later than the store, and the store no earlier than the note
  have hself := Instant.earlier_of_noLater (Instant.noLater_trans hbound htop) (hsorted.1 n hn)
  rw [Instant.earlier_irrefl] at hself
  cases hself

/-! ### Step by step -/

/-- Nothing changes but clients in hand. -/
theorem Paced.of_same (h : m.Paced id last top) (htable : m'.tableUse id = m.tableUse id)
    (hstore : m'.storeUse id = m.storeUse id)
    (htouched : m'.service.touched[id]? = m.service.touched[id]?)
    (hnotes : m'.service.notesOf id = m.service.notesOf id)
    (hhand : ∀ i listed, m'.HasInHand i listed → m.HasInHand i listed ∨
      lastUseIn (byKey Client.id listed) id = m.storeUse id) : m'.Paced id last top where
  latest := h.latest
  table := by rw [htable, hstore]; exact h.table
  hand i listed hm := by
    rw [htable, hstore]
    rcases hhand i listed hm with hm | hlisted
    · exact h.hand i listed hm
    · rw [hlisted]
      exact ⟨h.table, .refl _⟩
  sorted := by rw [hstore, hnotes]; exact h.sorted
  bound := by rw [hstore, hnotes]; exact h.bound
  recalled := by
    rcases h.recalled with hl | ha
    · refine Or.inl ⟨htouched ▸ hl.touched, hnotes ▸ hl.notes, htable ▸ hl.table,
        hstore ▸ hl.store, fun i listed hm x hx => ?_⟩
      rcases hhand i listed hm with hm | hlisted
      · exact hl.hand i listed hm x hx
      · exact hl.store x (hlisted ▸ hx)
    · exact Or.inr ⟨ha.issued, htouched ▸ ha.touched, htable ▸ ha.known⟩

theorem Paced.of_sameUses (h : m.Paced id last top) (hsame : m.service.SameUses m'.service)
    (hstore : m'.sources.store.clients = m.sources.store.clients)
    (hhand : ∀ i listed, m'.HasInHand i listed → m.HasInHand i listed ∨
      lastUseIn (byKey Client.id listed) id = m.storeUse id) : m'.Paced id last top := by
  refine h.of_same ?_ ?_ ?_ ?_ hhand
  · rw [tableUse, tableUse, hsame.table]
  · rw [storeUse, storeUse, hstore]
  · rw [hsame.touched]
  · rw [Service.notesOf, Service.notesOf, hsame.notes]

/-- A load of another client. -/
theorem Paced.load_ne (h : m.Paced id last top) {other : Text} (hr : Reachable config m)
    (hid : other ≠ id) (now : Instant) :
    (m.mapService (·.asked (.loadClient other now))).Paced id last top := by
  have hframe : (m.service.loadClient other now).2.table = m.service.table ∧
      (m.service.loadClient other now).2.touched[id]? = m.service.touched[id]? ∧
      (m.service.loadClient other now).2.notesOf id = m.service.notesOf id := by
    rcases Service.loadClient_cases hr.fresh other now with
      ⟨-, hsame⟩ | ⟨c, s', _, -, hc, -, hsame, -, -, hs'⟩
    · rw [Service.notesOf, Service.notesOf, hsame.table, hsame.touched, hsame.notes]
      exact ⟨rfl, rfl, rfl⟩
    · -- the other client may be noted, and that note is not counted here
      obtain ⟨htouched, hnotes⟩ := s'.frame_recordUse_ne now (hc ▸ hid : c.id ≠ id)
      obtain ⟨_, _, _, hframe, -⟩ := s'.frame_recordUse c now
      refine ⟨?_, ?_, ?_⟩
      · rw [hs', hframe, ← hsame.table]
      · rw [hs', htouched, hsame.touched]
      · rw [hs', Service.notesOf, Service.notesOf]
        rcases hnotes with hnotes | hnotes
        · rw [hnotes, hsame.notes]
        · rw [hnotes, hsame.notes]
          simp [hc, hid]
  refine h.of_same ?_ rfl hframe.2.1 hframe.2.2 fun _ _ hm => Or.inl hm
  exact congrArg (fun table => lastUseIn table.clients id) hframe.1

/-- A note is issued. -/
theorem Paced.noted (h : m.Paced id last top) (hnow : top.earlier now = true)
    (hknown : (m.tableUse id).isSome = true) (htable : m'.tableUse id = m.tableUse id)
    (hstore : m'.storeUse id = m.storeUse id) (htouched : m'.service.touched[id]? = some now)
    (hnotes : m'.service.notesOf id = m.service.notesOf id ++ [now])
    (hhand : ∀ i listed, m'.HasInHand i listed → m.HasInHand i listed) :
    m'.Paced id (some now) now where
  latest w hw := (Option.some.inj hw).symm
  table := by rw [htable, hstore]; exact h.table
  hand i listed hm := by rw [htable, hstore]; exact h.hand i listed (hhand i listed hm)
  sorted := by
    rw [hstore, hnotes, ← List.append_assoc, List.pairwise_append]
    refine ⟨h.sorted, List.pairwise_singleton .., fun x hx y hy => ?_⟩
    rw [List.mem_singleton.1 hy]
    exact Instant.earlier_of_noLater (h.bound x hx) hnow
  bound x hx := by
    rw [hstore, hnotes, ← List.append_assoc, List.mem_append] at hx
    rcases hx with hx | hx
    · exact Instant.noLater_trans (h.bound x hx) (Instant.noLater_of_earlier hnow)
    · rw [List.mem_singleton.1 hx]
      exact now.noLater_refl
  recalled := Or.inr ⟨rfl, htouched, htable ▸ hknown⟩

/-- **A load of the client**: there is no client to give, or the last use is too long ago and the
client is used now, or it is not. -/
theorem Paced.load (h : m.Paced id last top) (hr : Reachable config m) (hnow : now.isLeap = false) :
    ((∀ snapshot, (m.service.loadClient id now).1 ≠ .ok (some snapshot)) ∧
      m.service.SameUses (m.service.loadClient id now).2 ∧
      (m.mapService (·.asked (.loadClient id now))).Paced id last top) ∨
    ∃ c snapshot, m.service.table.clients[id]? = some c ∧
      (m.service.loadClient id now).1 = .ok (some snapshot) ∧
      if (config.staleness.nanos : Int) < now.since top then
        snapshot.details.lastUsed = now ∧
        (m.service.loadClient id now).2.writeBacks = m.service.writeBacks ++ [⟨id, now⟩] ∧
        (m.mapService (·.asked (.loadClient id now))).Paced id (some now) now
      else
        snapshot.details.lastUsed = top ∧
        (m.service.loadClient id now).2.writeBacks = m.service.writeBacks ∧
        (m.mapService (·.asked (.loadClient id now))).Paced id last top := by
  rcases Service.loadClient_cases hr.fresh id now with
    ⟨hnone, hsame⟩ | ⟨c, s', snapshot, hc, hid, hconfig, hsame, hok, hlast, hs'⟩
  · exact Or.inl ⟨hnone, hsame, h.of_sameUses hsame rfl fun _ _ hm => Or.inl hm⟩
  · obtain ⟨huse, hwritten⟩ := h.lastUse_eq hc hid
    have huse' : s'.lastUse c = top := by rw [Service.lastUse, hsame.touched]; exact huse
    have hwritten' : ∀ v, s'.touched[c.id]? = some v → v = top := hsame.touched ▸ hwritten
    have hstale : s'.isStale top now = decide ((config.staleness.nanos : Int) < now.since top) := by
      rw [Service.isStale, hconfig, hr.config_eq]
    have hm : m.mapService (·.asked (.loadClient id now)) =
        { m with service := (m.service.loadClient id now).2 } := rfl
    rw [hm, hs', Service.recordUse_eq huse' hwritten', hstale]
    rw [Service.recordUse_eq huse' hwritten', hstale] at hlast
    refine Or.inr ⟨c, snapshot, hc, hok, ?_⟩
    have hknown : (m.tableUse id).isSome = true := by rw [tableUse, lastUseIn, hc]; rfl
    by_cases hdelay : (config.staleness.nanos : Int) < now.since top
    · rw [decide_eq_true hdelay] at hlast ⊢
      rw [if_pos hdelay]
      refine ⟨hlast, ?_, h.noted (Instant.earlier_of_lt_since hnow hdelay) hknown ?_ rfl ?_ ?_
        fun _ _ hm => hm⟩
      · rw [← hid, ← hsame.notes]
        rfl
      · exact congrArg (fun table => lastUseIn table.clients id) hsame.table
      · simp [Service.writeBack, Service.count, hid]
      · simp [Service.writeBack, Service.count, Service.notesOf, hsame.notes, hid]
    · rw [decide_eq_false hdelay] at hlast ⊢
      rw [if_neg hdelay]
      exact ⟨hlast, hsame.notes, h.of_sameUses hsame rfl fun _ _ hm => Or.inl hm⟩

/-- **A note reaches the store**, or is lost. -/
theorem Paced.deliver (h : m.Paced id last top) (hd : m.deliver? 0 = some m') :
    m'.Paced id last top := by
  obtain ⟨note, hnote, hservice, htasks, hstore⟩ := deliver?_eq_some hd
  obtain ⟨rest, hnotes⟩ : ∃ rest, m.service.writeBacks = note :: rest := by
    cases hw : m.service.writeBacks with
    | nil => rw [hw] at hnote; cases hnote
    | cons first rest =>
        rw [hw] at hnote
        exact ⟨rest, by rw [Option.some.inj hnote]⟩
  rw [hnotes, List.eraseIdx_cons_zero] at hservice
  have htable : m'.tableUse id = m.tableUse id := by rw [tableUse, hservice]; rfl
  have htouched : m'.service.touched[id]? = m.service.touched[id]? := by rw [hservice]
  have hhand : ∀ i listed, m'.HasInHand i listed → m.HasInHand i listed := by
    rintro i listed ⟨duty, reload, stage, ht, hs⟩
    exact ⟨duty, reload, stage, htasks ▸ ht, hs⟩
  have hrest : m'.service.notesOf id =
      (rest.filter fun note => note.clientId = id).map WriteBack.usedAt := by
    rw [hservice]
    rfl
  by_cases hid : note.clientId = id
  · -- the oldest note about the client: the store takes its time, or keeps its own
    have hpending : m.service.notesOf id = note.usedAt :: m'.service.notesOf id := by
      rw [hrest, Service.notesOf, hnotes, List.filter_cons_of_pos (by simpa using hid)]
      rfl
    have hsub : List.Sublist ((m'.storeUse id).toList ++ m'.service.notesOf id)
        ((m.storeUse id).toList ++ m.service.notesOf id) := by
      rw [hpending]
      rcases hstore id with hstore | ⟨-, hstore⟩
      · rw [hstore]
        exact (List.sublist_cons_self ..).append_left _
      · rw [hstore]
        cases m.storeUse id with
        | none => exact List.sublist_cons_self ..
        | some x => exact List.sublist_cons_self ..
    have hkeep : UpTo (m.storeUse id) (m'.storeUse id) := by
      rcases hstore id with hstore | ⟨-, hstore⟩
      · rw [hstore]
        exact .refl _
      · intro x hx
        have hsorted := h.sorted
        rw [hx, hpending] at hsorted
        have hlt : x.earlier note.usedAt = true :=
          (List.pairwise_cons.1 hsorted).1 _ List.mem_cons_self
        exact ⟨note.usedAt, by rw [hstore, hx]; rfl, Instant.noLater_of_earlier hlt⟩
    refine ⟨h.latest, htable ▸ h.table.trans hkeep, fun i listed hm => ?_, h.sorted.sublist hsub,
      fun x hx => h.bound x (hsub.subset hx), ?_⟩
    · obtain ⟨hold, hlisted⟩ := h.hand i listed (hhand i listed hm)
      exact ⟨htable ▸ hold, hlisted.trans hkeep⟩
    · rcases h.recalled with hl | ha
      · have hnone := hl.notes
        rw [hpending] at hnone
        cases hnone
      · exact Or.inr ⟨ha.issued, htouched ▸ ha.touched, htable ▸ ha.known⟩
  · -- a note about another client
    have hpending : m'.service.notesOf id = m.service.notesOf id := by
      rw [hrest, Service.notesOf, hnotes, List.filter_cons_of_neg (by simpa using hid)]
    refine h.of_same htable ?_ htouched hpending fun i listed hm => Or.inl (hhand i listed hm)
    exact (hstore id).resolve_right fun hmine => hid hmine.1

/-- **Clients are published.** -/
theorem Paced.publish {i : Nat} {duty : Duty} {reload : Reload} {resolver : Option Resolver}
    {clients : Option (List Client)} (h : m.Paced id last top) (hr : Reachable config m)
    (ht : m.tasks[i]? = some ⟨duty, .rebuilding reload (.loaded resolver clients)⟩)
    (hnew : m.service.Replaced resolver clients m'.service) (hend : ∀ P, ¬m'.At i P)
    (hstore : m'.sources.store.clients = m.sources.store.clients)
    (hhand : ∀ i listed, m'.HasInHand i listed → m.HasInHand i listed) : m'.Paced id last top := by
  cases clients with
  | none =>
      exact h.of_sameUses ⟨hnew.table_eq, hnew.touched_eq, hnew.notes_eq⟩ hstore
        fun i listed hm => Or.inl (hhand i listed hm)
  | some listed =>
      have hmine : m.HasInHand i listed := ⟨duty, reload, _, ht, rfl⟩
      obtain ⟨hold, hlisted⟩ := h.hand i listed hmine
      have htable : m'.tableUse id = lastUseIn (byKey Client.id listed) id := by
        rw [tableUse, hnew.table_eq]
        rfl
      have hstore' : m'.storeUse id = m.storeUse id := by rw [storeUse, storeUse, hstore]
      have hnotes : m'.service.notesOf id = m.service.notesOf id := by
        rw [Service.notesOf, Service.notesOf, hnew.notes_eq]
      -- whoever else has clients in hand would hold the lock as well
      have hnobody : ∀ j found, ¬m'.HasInHand j found := by
        intro j found hj
        obtain rfl := (hhand j found hj).hasRead.reads.unique hr hmine.hasRead.reads
        exact hend _ hj
      have htouched : m'.service.touched[id]? = (m.service.touched[id]?).filter
          fun written => Service.isAhead (byKey Client.id listed) id written := by
        rw [hnew.touched_eq]
        simp [Std.TreeMap.getElem?_filter]
      refine ⟨h.latest, htable ▸ hstore' ▸ hlisted, fun j found hj => absurd hj (hnobody j found),
        by rw [hstore', hnotes]; exact h.sorted, by rw [hstore', hnotes]; exact h.bound, ?_⟩
      rcases h.recalled with hl | ha
      · -- what is published has the last time, as everything had
        refine Or.inl ⟨?_, hnotes ▸ hl.notes, fun x hx => hl.hand i listed hmine x (htable ▸ hx),
          hstore' ▸ hl.store, fun j found hj => absurd hj (hnobody j found)⟩
        rw [htouched, hl.touched]
        rfl
      · -- the last note is remembered just as long as the new table is behind it
        obtain ⟨x, hx⟩ := Option.isSome_iff_exists.1 ha.known
        obtain ⟨y, hy, -⟩ := hold x hx
        have hahead : Service.isAhead (byKey Client.id listed) id top = y.earlier top := by
          obtain ⟨c, hc, rfl⟩ := Option.map_eq_some_iff.1 hy
          rw [Service.isAhead, hc]
        rw [ha.touched, Option.filter_some, hahead] at htouched
        cases hlate : y.earlier top with
        | true =>
            rw [hlate] at htouched
            exact Or.inr ⟨ha.issued, htouched, by rw [htable, hy]; rfl⟩
        | false =>
            -- the new table has caught up, and so has the store
            rw [hlate] at htouched
            have hle := Instant.noLater_of_not_earlier hlate
            obtain ⟨z, hz, hyz⟩ := hlisted y hy
            have htop : top.noLater z = true := Instant.noLater_trans hle hyz
            refine Or.inl ⟨htouched, hnotes ▸ h.notesOf_eq_nil hz htop, ?_, ?_,
              fun j found hj => absurd hj (hnobody j found)⟩
            · intro x' hx'
              rw [htable, hy] at hx'
              cases hx'
              exact hle
            · intro z' hz'
              rw [hstore', hz] at hz'
              cases hz'
              exact htop

/-! ### Whatever else happens -/

/-- The clients of the store are left to the service.  Whoever lists them gets what the store has at
that moment, in some order; no edit concerns them; and notes reach the store, or are lost, in the
order in which they were issued.  The clock counts the time since some moment, so it never shows a
leap second. -/
structure Undisturbed (m : Machine) (e : Event) (_ : Machine) : Prop where
  listings : ∀ i listed, e = .answerClients i (.ok listed) →
    listed.Perm m.sources.store.clients.values
  edits : ∀ change, e = .edit change → ∀ id : Text,
    (m.sources.store.edited change).clients[id]? = m.sources.store.clients[id]?
  inOrder : ∀ k, e = .deliver k → k = 0
  clock : ∀ id now, e = .ask (.loadClient id now) → now.isLeap = false

theorem paced_new (config : Config) (store : Store) (id : Text) :
    (new config store).Paced id none ((lastUseIn store.clients id).getD ⟨0, 0⟩) := by
  have htable : (new config store).tableUse id = none := by
    simp [tableUse, lastUseIn, new, Service.new]
  have hhand : ∀ i listed, ¬(new config store).HasInHand i listed := by
    rintro i listed ⟨duty, reload, stage, ht, -⟩
    simp [new] at ht
  have hstore : ∀ x, (new config store).storeUse id = some x →
      (lastUseIn store.clients id).getD ⟨0, 0⟩ = x := fun x hx => by
    rw [show lastUseIn store.clients id = some x from hx]
    rfl
  have hnotes : (new config store).service.notesOf id = [] := rfl
  refine ⟨by simp, fun x hx => ?_, fun i listed hm => absurd hm (hhand i listed), ?_, ?_, Or.inl
    ⟨by simp [new, Service.new], hnotes, fun x hx => ?_, fun x hx => ?_,
      fun i listed hm => absurd hm (hhand i listed)⟩⟩
  · rw [htable] at hx
    cases hx
  · rw [hnotes, List.append_nil]
    cases (new config store).storeUse id <;> simp
  · intro x hx
    rw [hnotes, List.append_nil, Option.mem_toList] at hx
    rw [hstore x hx]
    exact x.noLater_refl
  · rw [htable] at hx
    cases hx
  · rw [hstore x hx]
    exact x.noLater_refl

/-- **Nothing but a load of the client changes what is known of its last use.** -/
theorem Paced.next (h : m.Paced id last top) (hr : Reachable config m)
    (hs : m.sources.store.Lawful) (he : m.next? e = some m') (hp : Undisturbed m e m')
    (hload : ∀ now, e ≠ .ask (.loadClient id now)) : m'.Paced id last top := by
  have hhand : ∀ i listed, m'.HasInHand i listed → m.HasInHand i listed ∨
      lastUseIn (byKey Client.id listed) id = m.storeUse id := by
    intro i listed hm
    refine (hand_of_next? he hm).imp_right fun hanswer => ?_
    rw [lastUseIn, hs.clients.getElem?_byKey_of_perm (hp.listings i listed hanswer)]
    rfl
  cases use_of_next? he with
  | apart hsame hstore => exact h.of_sameUses hsame hstore hhand
  | load other now => exact h.load_ne hr (fun hid => hload now (by rw [hid])) now
  | deliver hd =>
      obtain rfl := hp.inOrder _ rfl
      exact h.deliver hd
  | edit change =>
      refine h.of_same rfl ?_ rfl rfl hhand
      exact congrArg _ (hp.edits change rfl id)
  | publish ht hnew hend hstore =>
      refine h.publish hr ht hnew hend hstore fun i listed hm => ?_
      exact (hand_of_next? he hm).resolve_right (by simp)

end Machine

/-! ### Histories -/

/-- The clients that an event answers a listing with. -/
def Event.listed? : Event → Option (List Client)
  | .answerClients _ (.ok listed) => some listed
  | _ => none

/-- The client that an event loads, and the reading of the clock. -/
def Event.use? : Event → Option WriteBack
  | .ask (.loadClient id now) => some ⟨id, now⟩
  | _ => none

namespace History

variable {config : Config} (h : History config) {id : Text} {t : Nat} {top : Instant}

/-- The note that is issued at a moment. -/
def issued (t : Nat) : Option WriteBack :=
  (h.events[t]?.bind Event.use?).filter fun note =>
    (h.state (t + 1)).service.writeBacks = (h.state t).service.writeBacks ++ [note]

/-- The last use that a client is given with at a moment. -/
def reported (id : Text) (t : Nat) : Option Instant :=
  ((h.events[t]?.bind Event.use?).filter fun use => use.clientId = id).bind fun use =>
    match ((h.state t).service.loadClient id use.usedAt).1 with
    | .ok (some snapshot) => some snapshot.details.lastUsed
    | _ => none

/-- The notes about a client that are issued before a moment, the oldest first. -/
def notes (id : Text) (t : Nat) : List Instant :=
  ((List.range t).filterMap h.issued).filterMap fun note =>
    if note.clientId = id then some note.usedAt else none

/-- The last uses that a client is given with before a moment. -/
def reports (id : Text) (t : Nat) : List Instant := (List.range t).filterMap (h.reported id)

/-- The last use of a client of the table, as far as the service can know: the later one of what the
table has and the last note. -/
def effective (id : Text) (t : Nat) (c : Client) : Instant :=
  match (h.notes id t).getLast? with
  | some written => written.latest c.details.lastUsed
  | none => c.details.lastUsed

theorem notes_succ (id : Text) (t : Nat) : h.notes id (t + 1) = h.notes id t ++
    ((h.issued t).filter fun note => note.clientId = id).toList.map WriteBack.usedAt := by
  rw [notes, List.range_succ, List.filterMap_append, List.filterMap_append, ← notes]
  congr 1
  cases hnote : h.issued t with
  | none => simp [hnote]
  | some note => by_cases hid : note.clientId = id <;> simp [hnote, hid, Option.filter_some]

theorem reports_succ (id : Text) (t : Nat) :
    h.reports id (t + 1) = h.reports id t ++ (h.reported id t).toList := by
  rw [reports, List.range_succ, List.filterMap_append, ← reports]
  cases hr : h.reported id t <;> simp [hr]

/-- Whatever does not load the client adds no note about it, and no report of it. -/
theorem quiet (hload : ∀ now, h.events[t]? ≠ some (.ask (.loadClient id now))) :
    h.notes id (t + 1) = h.notes id t ∧ h.reports id (t + 1) = h.reports id t := by
  have huse : (h.events[t]?.bind Event.use?).filter (fun use => use.clientId = id) = none := by
    cases he : h.events[t]? with
    | none => rfl
    | some e =>
        cases e with
        | ask query =>
            cases query with
            | loadClient other now =>
                have hid : other ≠ id := fun hid => hload now (by rw [he, hid])
                simp [Event.use?, hid]
            | _ => rfl
        | _ => rfl
  have hissued : (h.issued t).filter (fun note => note.clientId = id) = none := by
    refine Option.filter_eq_none_iff.2 fun note hnote => ?_
    exact Option.filter_eq_none_iff.1 huse note (Option.filter_eq_some_iff.1 hnote).1
  have hreported : h.reported id t = none := by
    rw [reported, huse]
    rfl
  rw [notes_succ, reports_succ, hissued, hreported]
  simp

/-- What was noted and reported of a client before a moment, and the last use that is known then. -/
structure Keeps (id : Text) (t : Nat) (top : Instant) : Prop where
  paced : (h.state t).Paced id (h.notes id t).getLast? top
  spaced : (h.notes id t).Pairwise fun x y => (config.staleness.nanos : Int) < y.since x
  noted : ∀ x ∈ h.notes id t, x.isLeap = false ∧ x.noLater top = true
  ordered : (h.reports id t).Pairwise fun x y => x.noLater y = true
  reported : ∀ x ∈ h.reports id t, x.noLater top = true

theorem keeps_zero (id : Text) : h.Keeps id 0 ((lastUseIn h.store.clients id).getD ⟨0, 0⟩) where
  paced := Machine.paced_new config h.store id
  spaced := List.Pairwise.nil
  noted := List.forall_mem_nil _
  ordered := List.Pairwise.nil
  reported := List.forall_mem_nil _

variable {h}

/-- What the service knows is what it can know: the later one of what the table has and the last
note. -/
theorem Keeps.effective_eq (hk : h.Keeps id t top) {c : Client}
    (hc : (h.state t).service.table.clients[id]? = some c) : h.effective id t c = top := by
  have hx : (h.state t).tableUse id = some c.details.lastUsed := by
    rw [Machine.tableUse, lastUseIn, hc]
    rfl
  have hle := hk.paced.tableUse_noLater hx
  rw [effective]
  split
  · rename_i written hlast
    obtain rfl := hk.paced.latest written hlast
    exact Instant.latest_eq_left hle
  · rename_i hlast
    rcases hk.paced.recalled with hl | ha
    · exact Instant.noLater_antisymm hle (hl.table _ hx)
    · rw [hlast] at ha
      cases ha.issued

/-- Nothing is noted, and nothing is reported. -/
theorem Keeps.quiet (hk : h.Keeps id t top) (hnotes : h.notes id (t + 1) = h.notes id t)
    (hreports : h.reports id (t + 1) = h.reports id t)
    (hpaced : (h.state (t + 1)).Paced id (h.notes id t).getLast? top) : h.Keeps id (t + 1) top where
  paced := hnotes ▸ hpaced
  spaced := hnotes ▸ hk.spaced
  noted := hnotes ▸ hk.noted
  ordered := hreports ▸ hk.ordered
  reported := hreports ▸ hk.reported

/-- A client is given with its last use, whether or not it counts as used now. -/
theorem Keeps.report (hk : h.Keeps id t top) {now : Instant} (hle : top.noLater now = true)
    (hnotes : ∀ x ∈ h.notes id (t + 1), x.isLeap = false ∧ x.noLater now = true)
    (hspaced : (h.notes id (t + 1)).Pairwise fun x y => (config.staleness.nanos : Int) < y.since x)
    (hreported : h.reported id t = some now)
    (hpaced : (h.state (t + 1)).Paced id (h.notes id (t + 1)).getLast? now) :
    h.Keeps id (t + 1) now where
  paced := hpaced
  spaced := hspaced
  noted := hnotes
  ordered := by
    rw [reports_succ, hreported, Option.toList_some, List.pairwise_append]
    refine ⟨hk.ordered, List.pairwise_singleton .., fun x hx y hy => ?_⟩
    rw [List.mem_singleton.1 hy]
    exact Instant.noLater_trans (hk.reported x hx) hle
  reported x hx := by
    rw [reports_succ, hreported, Option.toList_some, List.mem_append, List.mem_singleton] at hx
    rcases hx with hx | rfl
    · exact Instant.noLater_trans (hk.reported x hx) hle
    · exact x.noLater_refl

/-! ### Loads of the client -/

section Load

variable {now : Instant} (he : h.events[t]? = some (.ask (.loadClient id now)))

include he

theorem state_succ_of_load :
    h.state (t + 1) = (h.state t).mapService (·.asked (.loadClient id now)) :=
  (Option.some.inj (h.next he)).symm

theorem issued_of_load : h.issued t =
    if ((h.state t).service.loadClient id now).2.writeBacks =
        (h.state t).service.writeBacks ++ [⟨id, now⟩] then some ⟨id, now⟩ else none := by
  rw [issued, he, state_succ_of_load he]
  simp only [Option.bind_some, Event.use?, Option.filter_some, decide_eq_true_eq]
  rfl

theorem reported_of_load : h.reported id t =
    match ((h.state t).service.loadClient id now).1 with
    | .ok (some snapshot) => some snapshot.details.lastUsed
    | _ => none := by
  rw [reported, he]
  simp [Event.use?, Option.filter_some]

/-- **What a load of the client comes to.** -/
theorem Keeps.load (hk : h.Keeps id t top) (hnow : now.isLeap = false) :
    ((∀ snapshot, ((h.state t).service.loadClient id now).1 ≠ .ok (some snapshot)) ∧
      h.Keeps id (t + 1) top) ∨
    ∃ c snapshot, (h.state t).service.table.clients[id]? = some c ∧
      ((h.state t).service.loadClient id now).1 = .ok (some snapshot) ∧
      if (config.staleness.nanos : Int) < now.since top then
        snapshot.details.lastUsed = now ∧ h.issued t = some ⟨id, now⟩ ∧ h.Keeps id (t + 1) now
      else
        snapshot.details.lastUsed = top ∧ h.issued t = none ∧ h.Keeps id (t + 1) top := by
  have hissued := issued_of_load he
  have hreported := reported_of_load he
  have hquiet : ∀ {s : Service}, s.writeBacks = (h.state t).service.writeBacks →
      s.writeBacks ≠ (h.state t).service.writeBacks ++ [⟨id, now⟩] := fun hs hs' => by
    have hlen := congrArg List.length (hs.symm.trans hs')
    simp at hlen
  rcases hk.paced.load (h.reachable t) hnow with
    ⟨hnone, hsame, hpaced⟩ | ⟨c, snapshot, hc, hok, hload⟩
  · have hnothing : h.reported id t = none := by
      rw [hreported]
      split
      · rename_i snapshot hok
        exact absurd hok (hnone snapshot)
      · rfl
    rw [if_neg (hquiet hsame.notes)] at hissued
    refine Or.inl ⟨hnone, hk.quiet ?_ ?_ (state_succ_of_load he ▸ hpaced)⟩
    · rw [notes_succ, hissued]
      exact List.append_nil _
    · rw [reports_succ, hnothing]
      exact List.append_nil _
  · refine Or.inr ⟨c, snapshot, hc, hok, ?_⟩
    rw [hok] at hreported
    split
    · rename_i hdelay
      rw [if_pos hdelay] at hload
      obtain ⟨hlast, hnotes, hpaced⟩ := hload
      rw [if_pos hnotes] at hissued
      have hlt := Instant.earlier_of_lt_since hnow hdelay
      have hle := Instant.noLater_of_earlier hlt
      have hgrow : h.notes id (t + 1) = h.notes id t ++ [now] := by
        rw [notes_succ, hissued]
        simp [Option.filter_some]
      refine ⟨hlast, hissued, hk.report hle ?_ ?_ (hlast ▸ hreported) ?_⟩
      · intro x hx
        rw [hgrow, List.mem_append, List.mem_singleton] at hx
        rcases hx with hx | rfl
        · exact ⟨(hk.noted x hx).1, Instant.noLater_trans (hk.noted x hx).2 hle⟩
        · exact ⟨hnow, x.noLater_refl⟩
      · -- every note was no later than the last one, which is more than the delay ago
        rw [hgrow, List.pairwise_append]
        refine ⟨hk.spaced, List.pairwise_singleton .., fun x hx y hy => ?_⟩
        obtain ⟨hleap, hxtop⟩ := hk.noted x hx
        have hne : h.notes id t ≠ [] := List.ne_nil_of_mem hx
        have htop := hk.paced.latest _ (List.getLast?_eq_some_getLast hne)
        have hleap' : top.isLeap = false := htop ▸ (hk.noted _ (List.getLast_mem hne)).1
        rw [List.mem_singleton.1 hy]
        exact Int.lt_of_lt_of_le hdelay (Instant.since_le_since hnow hleap hleap' hxtop)
      · rw [hgrow, List.getLast?_concat, state_succ_of_load he]
        exact hpaced
    · rename_i hdelay
      rw [if_neg hdelay] at hload
      obtain ⟨hlast, hnotes, hpaced⟩ := hload
      rw [if_neg (hquiet hnotes)] at hissued
      have hsame : h.notes id (t + 1) = h.notes id t := by
        rw [notes_succ, hissued]
        exact List.append_nil _
      refine ⟨hlast, hissued, hk.report top.noLater_refl ?_ ?_ (hlast ▸ hreported) ?_⟩
      · rw [hsame]
        exact hk.noted
      · rw [hsame]
        exact hk.spaced
      · rw [hsame, state_succ_of_load he]
        exact hpaced

end Load

/-! ### Whole histories -/

theorem lawful (h : History config) (hstore : h.store.Lawful) (t : Nat) :
    (h.state t).sources.store.Lawful :=
  Machine.Run.keeps (I := fun m => m.sources.store.Lawful)
    (fun he _ hs => hs.op (Machine.storeOp_of_next? he))
    (Machine.run_of_play? (h.play?_take t)) hstore

/-- **From one moment to the next.** -/
theorem Keeps.next (hk : h.Keeps id t top) (hstore : h.store.Lawful)
    (hp : h.Follows Machine.Undisturbed) : ∃ top, h.Keeps id (t + 1) top := by
  by_cases hload : ∃ now, h.events[t]? = some (.ask (.loadClient id now))
  · obtain ⟨now, he⟩ := hload
    rcases hk.load he ((hp t _ he).clock id now rfl) with ⟨-, hk'⟩ | ⟨c, snapshot, -, -, hk'⟩
    · exact ⟨top, hk'⟩
    · split at hk'
      · exact ⟨now, hk'.2.2⟩
      · exact ⟨top, hk'.2.2⟩
  · obtain ⟨hnotes, hreports⟩ := h.quiet fun now he => hload ⟨now, he⟩
    refine ⟨top, hk.quiet hnotes hreports ?_⟩
    rcases h.step t with ⟨e, he, hnext⟩ | ⟨-, hsame⟩
    · refine hk.paced.next (h.reachable t) (h.lawful hstore t) hnext (hp t e he) fun now hnow => ?_
      exact hload ⟨now, hnow ▸ he⟩
    · rw [hsame]
      exact hk.paced

theorem exists_keeps (hstore : h.store.Lawful) (hp : h.Follows Machine.Undisturbed) (id : Text)
    (t : Nat) : ∃ top, h.Keeps id t top := by
  induction t with
  -- before anything happens, the last time is that of the store
  | zero => exact ⟨_, h.keeps_zero id⟩
  | succ t ih =>
      obtain ⟨top, hk⟩ := ih
      exact hk.next hstore hp

/-- **Notes are spaced, and last uses never go back.**  Take any history of a service over a store,
in which the clients of the store are left to the service.  Notes may take as long as they like to
reach the store, and may be lost; roles and clients are read again at any time, and rebuilds may
fail.  Any two notes about a client are further apart than the configured delay.  The last uses that
a client is given with never go back.  A load that gives the client issues a note just when the time
since its last use, the later one of what the table has and of the last note, exceeds the delay; the
last use that it gives is then the present moment, and otherwise that last use. -/
theorem last_uses_paced {roles : List Role} {clients : List Client}
    (hstore : h.store = .ofEntries roles clients) (hp : h.Follows Machine.Undisturbed) (id : Text)
    (t : Nat) :
    (h.notes id t).Pairwise (fun x y => (config.staleness.nanos : Int) < y.since x) ∧
    (h.reports id t).Pairwise (fun x y => x.noLater y = true) ∧
    ∀ now snapshot, h.events[t]? = some (.ask (.loadClient id now)) →
      ((h.state t).service.loadClient id now).1 = .ok (some snapshot) →
        ∃ c, (h.state t).service.table.clients[id]? = some c ∧
          (h.issued t = some ⟨id, now⟩ ↔ (config.staleness.nanos : Int) <
            now.since (h.effective id t c)) ∧
          snapshot.details.lastUsed =
            if h.issued t = some ⟨id, now⟩ then now else h.effective id t c := by
  have hlawful : h.store.Lawful := hstore ▸ Store.lawful_ofEntries roles clients
  obtain ⟨top, hk⟩ := exists_keeps hlawful hp id t
  refine ⟨hk.spaced, hk.ordered, fun now snapshot he hok => ?_⟩
  rcases hk.load he ((hp t _ he).clock id now rfl) with ⟨hnone, -⟩ | ⟨c, given, hc, hok', hload⟩
  · exact absurd hok (hnone snapshot)
  · obtain rfl : given = snapshot := Option.some.inj (Except.ok.inj (hok'.symm.trans hok))
    refine ⟨c, hc, ?_⟩
    rw [hk.effective_eq hc]
    split at hload
    · rename_i hdelay
      rw [if_pos hload.2.1]
      exact ⟨⟨fun _ => hdelay, fun _ => hload.2.1⟩, hload.1⟩
    · rename_i hdelay
      rw [hload.2.1]
      exact ⟨⟨nofun, fun h => absurd h hdelay⟩, hload.1⟩

/-- A client that was last used long ago. -/
def porter : Client := ⟨"porter".toList, [], [], ⟨86400, 0⟩, [], false, .new ⟨0, 0⟩⟩

/-- The porter is loaded three times, and noted the first and the third time.  The first note has
reached the store when clients are read again.  Then the porter is loaded once more. -/
def porterDay : List Event :=
  [.setup none, .move 0, .move 0, .move 0, .answerRoles 0 (.ok []), .answerClients 0 (.ok [porter]),
    .move 0, .ask (.loadClient porter.id ⟨100, 0⟩), .ask (.loadClient porter.id ⟨105, 0⟩),
    .ask (.loadClient porter.id ⟨111, 0⟩), .deliver 0, .rebuildNow, .move 2, .move 2,
    .answerRoles 2 (.ok []), .answerClients 2 (.ok [Store.usedAt porter ⟨100, 0⟩]), .move 2,
    .ask (.loadClient porter.id ⟨115, 0⟩)]

/-- With a delay of ten seconds, the two notes are further apart, and the last load still gives the
time of the second one. -/
theorem last_uses_paced_porter :
    ∃ h : History ⟨10, 100⟩, h.events = porterDay ∧
      h.notes porter.id 18 = [⟨100, 0⟩, ⟨111, 0⟩] ∧
      h.reports porter.id 18 = [⟨100, 0⟩, ⟨100, 0⟩, ⟨111, 0⟩, ⟨111, 0⟩] ∧
      (h.notes porter.id 18).Pairwise (fun x y => (10000000000 : Int) < y.since x) ∧
      (h.reports porter.id 18).Pairwise fun x y => x.noLater y = true := by
  let h : History ⟨10, 100⟩ := ⟨.ofEntries [] [porter], porterDay, by decide +kernel⟩
  have hvalues : ∀ t : Fin 18, ∀ listed ∈ porterDay[t.val]?.bind Event.listed?,
      (h.state t).sources.store.clients.values = listed := by decide +kernel
  have hp : h.Follows Machine.Undisturbed := by
    intro t e he
    have hmem : e ∈ porterDay := List.mem_of_getElem? he
    refine ⟨?_, ?_, ?_, ?_⟩
    · rintro i listed rfl
      have hlt : t < 18 := (List.getElem?_eq_some_iff.1 he).1
      have hlisted := hvalues ⟨t, hlt⟩ listed
      rw [show porterDay[t]? = _ from he] at hlisted
      exact hlisted rfl ▸ .refl _
    · rintro change rfl
      simp [porterDay] at hmem
    · rintro k rfl
      simpa [porterDay] using hmem
    · rintro id now rfl
      simp only [porterDay, List.mem_cons, reduceCtorEq, Event.ask.injEq, Query.loadClient.injEq,
        List.not_mem_nil, false_or, or_false] at hmem
      rcases hmem with ⟨-, rfl⟩ | ⟨-, rfl⟩ | ⟨-, rfl⟩ | ⟨-, rfl⟩ <;> rfl
  obtain ⟨hspaced, hordered, -⟩ := last_uses_paced rfl hp porter.id 18
  exact ⟨h, rfl, by decide +kernel, by decide +kernel, hspaced, hordered⟩

end History
end DelegatedScopes
