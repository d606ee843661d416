import DelegatedScopes.Proofs.Service.Publication
import DelegatedScopes.Proofs.Service.Cache

/-!
# The service — uses of clients

What a service knows about the last use of a client stands in three places: in the record of its
table, in what it wrote back, and in the notes on their way to the store.  Few events touch them.

* `Machine.Use`, `Machine.use_of_next?`: what an event does to last uses.
* `Service.recordUse_eq`: what a load does when the service knows one last use only.
* `Service.loadClient_cases`, `Machine.deliver?_eq_some`: loads, and notes that reach the store.
* `Machine.hand_of_next?`: clients that a rebuild has in hand were listed.
-/

namespace DelegatedScopes

/-! ### Loads -/

namespace Service

variable {s : Service} {c : Client} {id : Text} {now top : Instant}

/-- A load of a client whose last use is known, and that was last written back at that time or not
since the table has it: it is used now if that is too long ago, and then a note is issued. -/
theorem recordUse_eq (huse : s.lastUse c = top) (hw : ∀ v, s.touched[c.id]? = some v → v = top) :
    s.recordUse c now =
      if s.isStale top now then
        (now, { s with touched := s.touched.insert c.id now }.writeBack c.id now)
      else (top, s) := by
  rw [recordUse, huse]
  split
  · rename_i hstale
    cases ht : s.touched[c.id]? with
    | none => rfl
    | some v =>
        obtain rfl := hw v ht
        dsimp only
        rw [if_pos hstale]
  · rfl

/-- A use of one client leaves all others alone. -/
theorem frame_recordUse_ne (s : Service) (now : Instant) (hid : c.id ≠ id) :
    (s.recordUse c now).2.touched[id]? = s.touched[id]? ∧
      ((s.recordUse c now).2.writeBacks = s.writeBacks ∨
        (s.recordUse c now).2.writeBacks = s.writeBacks ++ [⟨c.id, now⟩]) := by
  rw [recordUse]
  split
  · dsimp only
    split
    · split
      · exact ⟨by simp [writeBack, count, Std.TreeMap.getElem?_insert, hid], Or.inr rfl⟩
      · exact ⟨by simp [Std.TreeMap.getElem?_insert, hid], Or.inl rfl⟩
    · exact ⟨by simp [writeBack, count, Std.TreeMap.getElem?_insert, hid], Or.inr rfl⟩
  · exact ⟨rfl, Or.inl rfl⟩

/-- Two services know the same about last uses. -/
structure SameUses (s s' : Service) : Prop where
  table : s'.table = s.table
  touched : s'.touched = s.touched
  notes : s'.writeBacks = s.writeBacks

theorem SameUses.refl (s : Service) : s.SameUses s := ⟨rfl, rfl, rfl⟩

/-- A load that gives no client does not count as a use. -/
theorem loadClient_cases (hs : s.Fresh) (id : Text) (now : Instant) :
    ((∀ snapshot, (s.loadClient id now).1 ≠ .ok (some snapshot)) ∧
      s.SameUses (s.loadClient id now).2) ∨
    ∃ c s' snapshot, s.table.clients[id]? = some c ∧ c.id = id ∧ s'.config = s.config ∧
      s.SameUses s' ∧ (s.loadClient id now).1 = .ok (some snapshot) ∧
      snapshot.details.lastUsed = (s'.recordUse c now).1 ∧
      (s.loadClient id now).2 = (s'.recordUse c now).2 := by
  rw [loadClient]
  split
  · split
    · exact Or.inl ⟨by simp, .refl s⟩
    · rename_i c hc
      obtain ⟨counters, expansions, hexp, -⟩ := s.frame_expansionOf c
      split
      · rename_i e s' heq
        rw [heq] at hexp
        dsimp only at hexp
        exact Or.inl ⟨by simp, by rw [hexp]; exact ⟨rfl, rfl, rfl⟩⟩
      · rename_i expanded s' heq
        rw [heq] at hexp
        dsimp only at hexp
        refine Or.inr ⟨c, s', _, hc, hs.keyed id c hc, ?_, ?_, rfl, rfl, rfl⟩
        · rw [hexp]
        · rw [hexp]; exact ⟨rfl, rfl, rfl⟩
  · exact Or.inl ⟨by simp, .refl s⟩

end Service

/-! ### Last uses -/

/-- The last use of a client among some clients. -/
def lastUseIn (known : Std.TreeMap Text Client) (id : Text) : Option Instant :=
  known[id]?.map fun c => c.details.lastUsed

/-- The notes about a client that are on their way to the store. -/
def Service.notesOf (s : Service) (id : Text) : List Instant :=
  (s.writeBacks.filter fun note => note.clientId = id).map WriteBack.usedAt

theorem lastUseIn_modify (known : Std.TreeMap Text Client) (other id : Text) (moment : Instant) :
    lastUseIn (known.modify other fun c => Store.usedAt c moment) id =
      if other = id then (lastUseIn known id).map fun _ => moment else lastUseIn known id := by
  simp only [lastUseIn, Std.TreeMap.getElem?_modify, Std.LawfulEqCmp.compare_eq_iff_eq]
  split
  · rename_i hid
    subst hid
    rw [Option.map_map, Option.map_map]
    rfl
  · rfl

namespace Machine

variable {m m' : Machine} {e : Event} {i j : Nat}

/-- The last use of a client in the table. -/
def tableUse (m : Machine) (id : Text) : Option Instant := lastUseIn m.service.table.clients id

/-- The last use of a client in the store. -/
def storeUse (m : Machine) (id : Text) : Option Instant := lastUseIn m.sources.store.clients id

/-- What an event does to last uses: nothing, or it is a load, a note that reaches the store, a
change of the store or a publication. -/
inductive Use (m : Machine) : Event → Machine → Prop
  | apart {e : Event} {m' : Machine} (h : m.service.SameUses m'.service)
      (hstore : m'.sources.store.clients = m.sources.store.clients) : Use m e m'
  | load (id : Text) (now : Instant) :
      Use m (.ask (.loadClient id now)) (m.mapService (·.asked (.loadClient id now)))
  | deliver {k : Nat} {m' : Machine} (h : m.deliver? k = some m') : Use m (.deliver k) m'
  | edit (change : Edit) : Use m (.edit change) (m.mapStore (·.edited change))
  | publish {i : Nat} {duty : Duty} {reload : Reload} {resolver : Option Resolver}
      {clients : Option (List Client)} {m' : Machine}
      (h : m.tasks[i]? = some ⟨duty, .rebuilding reload (.loaded resolver clients)⟩)
      (hnew : m.service.Replaced resolver clients m'.service) (hend : ∀ P, ¬m'.At i P)
      (hstore : m'.sources.store.clients = m.sources.store.clients) : Use m (.move i) m'

theorem clients_discard (m : Machine) (channel : Option Nat) :
    (m.discard channel).sources.store.clients = m.sources.store.clients := by
  cases channel <;> rfl

theorem Move.use (h : Move m i e m') : Use m e m' := by
  cases h with
  | skipSetup =>
      refine .apart ?_ (clients_discard m _)
      rw [leaveSetup, setPhase, service_discard]
      exact .refl _
  | enterRebuild =>
      refine .apart ?_ ?_
      · rw [service_enterRebuild, Service.beginRebuild]
        split <;> exact ⟨rfl, rfl, rfl⟩
      · rw [store_enterRebuild]
  | @refused duty _ _ _ cause =>
      refine .apart ?_ ?_
      · rw [service_failRebuild]
        exact ⟨rfl, rfl, rfl⟩
      · cases duty with
        | setup channel => exact clients_discard _ channel
        | _ => rfl
  | @publish duty reload resolver clients h =>
      refine .publish h ?_ ?_ ?_
      · rw [service_leaveRebuild_ok]
        exact m.service.replaced_publish resolver clients _
      · rintro P ⟨duty', reload', stage, ht, -⟩
        have hend := getElem?_leaveRebuild (m := m.mapService (·.publish resolver clients)) h
          (.ok ())
        exact after_ne_rebuilding duty (.ok ())
          (congrArg Task.phase (Option.some.inj (hend.symm.trans ht)))
      · rw [store_leaveRebuild_ok]
        rfl
  | @hear _ change _ _ hr =>
      obtain ⟨_, _, _, _, rfl⟩ := Store.receive?_eq_some hr
      exact .apart (by cases change <;> exact ⟨rfl, rfl, rfl⟩) rfl
  | _ => exact .apart ⟨rfl, rfl, rfl⟩ rfl

/-- **Every event does one of these things to last uses.** -/
theorem use_of_next? (he : m.next? e = some m') : Use m e m' := by
  cases step_of_next? he with
  | move h => exact h.use
  | request change => exact .apart (by cases change <;> exact ⟨rfl, rfl, rfl⟩) rfl
  | ask query =>
      cases query with
      | resolve scopes =>
          refine .apart ?_ rfl
          change m.service.SameUses (m.service.resolve scopes).2
          rw [Service.resolve]
          split <;> exact ⟨rfl, rfl, rfl⟩
      | loadRole id => exact .apart ⟨rfl, rfl, rfl⟩ rfl
      | loadClient id now => exact .load id now
  | edit change => exact .edit change
  | deliver h => exact .deliver h
  | receive _ hr =>
      obtain ⟨_, _, _, _, rfl⟩ := Store.receive?_eq_some hr
      exact .apart ⟨rfl, rfl, rfl⟩ rfl
  | _ => exact .apart ⟨rfl, rfl, rfl⟩ rfl

/-- A note reaches the store and sets the last use of its client, or it is lost. -/
theorem deliver?_eq_some {k : Nat} (hd : m.deliver? k = some m') :
    ∃ note, m.service.writeBacks[k]? = some note ∧
      m'.service = { m.service with writeBacks := m.service.writeBacks.eraseIdx k } ∧
      m'.tasks = m.tasks ∧
      ∀ id, m'.storeUse id = m.storeUse id ∨ note.clientId = id ∧
        m'.storeUse id = (m.storeUse id).map fun _ => note.usedAt := by
  rw [deliver?] at hd
  split at hd
  · cases hd
  · rename_i note hnote
    obtain rfl := Option.some.inj hd
    refine ⟨note, hnote, ?_⟩
    split
    · rename_i store htouch
      refine ⟨rfl, rfl, fun id => ?_⟩
      have huse : lastUseIn store.clients id = _ :=
        (congrArg (fun s => lastUseIn s.clients id) (Store.touch_eq_ok htouch)).trans
          (lastUseIn_modify m.sources.store.clients note.clientId id note.usedAt)
      split at huse
      · rename_i hid
        exact Or.inr ⟨hid, huse⟩
      · exact Or.inl huse
    · exact ⟨rfl, rfl, fun _ => Or.inl rfl⟩

/-! ### Clients in hand -/

/-- A rebuild has read some clients, and has not published them. -/
def HasInHand (m : Machine) (i : Nat) (listed : List Client) : Prop :=
  m.At i fun stage => stage.clients? = some listed

theorem HasInHand.hasRead {listed : List Client} (h : m.HasInHand i listed) :
    m.HasRead i .clients :=
  h.mono fun stage hs => by rw [Stage.has, hs]; rfl

/-- Clients in hand have been there before, or have just been listed. -/
theorem hand_of_next? {listed : List Client} (he : m.next? e = some m')
    (h : m'.HasInHand i listed) :
    m.HasInHand i listed ∨ e = .answerClients i (.ok listed) := by
  obtain ⟨duty, reload, stage, ht, hs⟩ := h
  rcases rebuilding_of_next? he ht with ht | rfl | ⟨earlier, ht, hnext⟩
  · exact Or.inl ⟨duty, reload, stage, ht, hs⟩
  · cases hs
  · cases hnext with
    | enter => rw [Stage.clients?_firstStage] at hs; cases hs
    | roles => rw [Stage.clients?_afterRoles] at hs; cases hs
    | clients =>
        cases hs
        exact Or.inr rfl

end Machine
end DelegatedScopes
