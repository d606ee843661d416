import DelegatedScopes.Proofs.Service.Run
import DelegatedScopes.Proofs.Store.Keyed

/-!
# The store — contents and channels

A change of the store leaves what it holds of a kind as it is, or it is sent to the newest
subscription.  When a client was last used is neither held nor sent, as far as this goes.

* `Store.Keeps`: a store holds the same records of a kind, last uses aside.
* `Store.keeps_edited`, `Store.mem_waiting_edited`: a change that is not kept quiet arrives.
* `Store.Op`, `Store.Lawful.op`: whatever happens to a store, every record stays under its own id.
-/

namespace DelegatedScopes

/-- A client with its last use left out. -/
def Client.withoutUse (c : Client) : Client := Store.usedAt c ⟨0, 0⟩

/-- Two tables have the same clients, last uses aside. -/
def SameClients (known other : Std.TreeMap Text Client) : Prop :=
  ∀ id : Text, (known[id]?).map Client.withoutUse = (other[id]?).map Client.withoutUse

theorem SameClients.refl (known : Std.TreeMap Text Client) : SameClients known known :=
  fun _ => rfl

theorem SameClients.trans {a b c : Std.TreeMap Text Client} (h : SameClients a b)
    (h' : SameClients b c) : SameClients a c :=
  fun id => (h id).trans (h' id)

/-- A use is recorded in the entry of a client, and no client comes or goes. -/
theorem sameClients_modify (known : Std.TreeMap Text Client) (id : Text) (moment : Instant) :
    SameClients known (known.modify id fun c => Store.usedAt c moment) := by
  intro j
  simp only [Std.TreeMap.getElem?_modify, Std.LawfulEqCmp.compare_eq_iff_eq]
  split
  · rename_i hj
    subst hj
    rw [Option.map_map]
    rfl
  · rfl

namespace Store

/-! ### Records -/

/-- A store holds the same records of a kind as before, last uses aside. -/
def Keeps (s s' : Store) : Change → Prop
  | .roles => s'.roles = s.roles
  | .clients => SameClients s.clients s'.clients

/-- A store that holds the same keeps what there is to list. -/
theorem keeps_of_eq {s s' : Store} (hr : s'.roles = s.roles) (hc : s'.clients = s.clients)
    (k : Change) : s.Keeps s' k := by
  cases k with
  | roles => exact hr
  | clients =>
      rw [Keeps, hc]
      exact .refl _

/-- Every role and every client stands under its own id. -/
structure Lawful (s : Store) : Prop where
  roles : Keyed Role.id s.roles
  clients : Keyed Client.id s.clients

theorem lawful_ofEntries (roles : List Role) (clients : List Client) :
    (ofEntries roles clients).Lawful :=
  ⟨keyed_byKey roles, keyed_byKey clients⟩

/-- A note of a use that reaches the store. -/
theorem touch_eq_ok {s s' : Store} {id : Text} {moment : Instant} (h : s.touch id moment = .ok s') :
    s' = { s with
      touches := s.touches + 1
      clients := s.clients.modify id fun c => usedAt c moment } := by
  rw [touch, checkAvailable] at h
  split at h
  · cases h
  · exact (Except.ok.inj h).symm

theorem Lawful.touch {s s' : Store} {id : Text} {moment : Instant} (hs : s.Lawful)
    (h : s.touch id moment = .ok s') : s'.Lawful := by
  rw [touch_eq_ok h]
  exact ⟨hs.roles, hs.clients.modify id fun _ => rfl⟩

/-- A use that is recorded is no change for the listings. -/
theorem keeps_touch {s s' : Store} {id : Text} {moment : Instant} (h : s.touch id moment = .ok s')
    (k : Change) : s.Keeps s' k := by
  rw [touch_eq_ok h]
  cases k with
  | roles => rfl
  | clients => exact sameClients_modify s.clients id moment

/-! ### Changes and what is sent of them -/

/-- What an edit sends to the newest subscription. -/
def announced (s : Store) : Edit → Option Change
  | .putRole _ => some .roles
  | .deleteRole id => if s.roles.contains id then some .roles else none
  | .putClient _ => some .clients
  | .deleteClient id => if s.clients.contains id then some .clients else none
  | .touch _ _ | .setUnavailable _ => none

/-- Every entry stays under its own id, whatever is edited. -/
theorem Lawful.edited {s : Store} (h : s.Lawful) (change : Edit) : (s.edited change).Lawful := by
  cases change with
  | putRole r => exact ⟨h.roles.insert r, h.clients⟩
  | deleteRole id =>
      rw [Store.edited, deleteRole]
      split
      · exact ⟨h.roles.erase id, h.clients⟩
      · exact h
  | putClient c => exact ⟨h.roles, h.clients.insert c⟩
  | deleteClient id =>
      rw [Store.edited, deleteClient]
      split
      · exact ⟨h.roles, h.clients.erase id⟩
      · exact h
  | touch id moment =>
      rw [Store.edited]
      cases ht : s.touch id moment with
      | error e => exact h
      | ok s' => exact h.touch ht
  | setUnavailable value => exact ⟨h.roles, h.clients⟩

/-- **An edit that sends nothing of a kind keeps the records of that kind.** -/
theorem keeps_edited (s : Store) (change : Edit) {k : Change} (h : s.announced change ≠ some k) :
    s.Keeps (s.edited change) k := by
  cases change with
  | putRole r =>
      cases k with
      | roles => exact absurd rfl h
      | clients => exact .refl _
  | deleteRole id =>
      rw [announced] at h
      rw [edited, deleteRole]
      split
      · rename_i hc
        rw [if_pos hc] at h
        cases k with
        | roles => exact absurd rfl h
        | clients => exact .refl _
      · exact keeps_of_eq rfl rfl k
  | putClient c =>
      cases k with
      | roles => rfl
      | clients => exact absurd rfl h
  | deleteClient id =>
      rw [announced] at h
      rw [edited, deleteClient]
      split
      · rename_i hc
        rw [if_pos hc] at h
        cases k with
        | roles => rfl
        | clients => exact absurd rfl h
      · exact keeps_of_eq rfl rfl k
  | touch id moment =>
      rw [edited]
      cases ht : s.touch id moment with
      | error e => exact keeps_of_eq rfl rfl k
      | ok s' => exact keeps_touch ht k
  | setUnavailable value => exact keeps_of_eq rfl rfl k

/-- An edit is told to the newest channel, or to none. -/
theorem channels_edited (s : Store) (change : Edit) :
    (s.edited change).channels =
      (s.announced change).elim s.channels fun k =>
        s.channels.modify (s.channels.size - 1) (·.send k) := by
  cases change with
  | deleteRole id =>
      rw [edited, deleteRole, announced]
      split <;> rfl
  | deleteClient id =>
      rw [edited, deleteClient, announced]
      split <;> rfl
  | touch id moment =>
      rw [edited]
      cases ht : s.touch id moment with
      | error e => rfl
      | ok s' =>
          rw [touch_eq_ok ht]
          rfl
  | _ => rfl

/-! ### One channel -/

/-- What waits in a channel. -/
def waiting (s : Store) (c : Nat) : List Change := (s.channels[c]?.map Channel.waiting).getD []

/-- Whether the receiving end of a channel is still there. -/
def isOpen (s : Store) (c : Nat) : Bool := s.channels[c]?.any Channel.isOpen

/-- Whether a channel takes one change more. -/
def hasRoom (s : Store) (c : Nat) : Bool :=
  s.channels[c]?.all fun ch => ch.waiting.length < ch.capacity

theorem channel_onChannel_ne (s : Store) {i c : Nat} (h : i ≠ c) (f : Channel → Channel) :
    (s.onChannel i f).channels[c]? = s.channels[c]? := by
  rw [onChannel, Array.getElem?_modify, if_neg h]

theorem isOpen_iff {s : Store} {c : Nat} :
    s.isOpen c = true ↔ ∃ ch, s.channels[c]? = some ch ∧ ch.isOpen = true := by
  rw [isOpen]
  cases s.channels[c]? with
  | none => simp
  | some ch => simp

/-- A new subscription leaves the channels that are open as they are. -/
theorem channel_subscribe (s : Store) {c : Nat} (h : s.isOpen c = true) (capacity : Nat) :
    (s.subscribe capacity).2.channels[c]? = s.channels[c]? := by
  obtain ⟨ch, hch, -⟩ := isOpen_iff.1 h
  obtain ⟨hlt, -⟩ := Array.getElem?_eq_some_iff.1 hch
  rw [subscribe, Array.getElem?_push, if_neg (Nat.ne_of_lt hlt)]

/-- An edit leaves a channel alone, or sends it what it announces. -/
theorem channel_edited (s : Store) (change : Edit) (c : Nat) :
    (s.edited change).channels[c]? = s.channels[c]? ∨
      ∃ k, s.announced change = some k ∧
        (s.edited change).channels[c]? = (s.channels[c]?).map (·.send k) := by
  rw [channels_edited]
  cases hk : s.announced change with
  | none => exact Or.inl rfl
  | some k =>
      rw [Option.elim_some, Array.getElem?_modify]
      split
      · exact Or.inr ⟨k, rfl, rfl⟩
      · exact Or.inl rfl

theorem isOpen_congr {s s' : Store} {c : Nat} (h : s'.channels[c]? = s.channels[c]?) :
    s'.isOpen c = s.isOpen c := by
  rw [isOpen, isOpen, h]

theorem waiting_congr {s s' : Store} {c : Nat} (h : s'.channels[c]? = s.channels[c]?) :
    s'.waiting c = s.waiting c := by
  rw [waiting, waiting, h]

/-- An edit closes no channel. -/
theorem isOpen_edited {s : Store} {c : Nat} (h : s.isOpen c = true) (change : Edit) :
    (s.edited change).isOpen c = true := by
  rcases s.channel_edited change c with hsame | ⟨k, -, hsent⟩
  · rw [isOpen_congr hsame, h]
  · obtain ⟨ch, hch, hopen⟩ := isOpen_iff.1 h
    refine isOpen_iff.2 ⟨ch.send k, by rw [hsent, hch]; rfl, ?_⟩
    rw [Channel.send]
    split <;> exact hopen

/-- What waits goes on waiting when the store changes. -/
theorem mem_waiting_edited_of_mem {s : Store} {c : Nat} {k : Change} (h : k ∈ s.waiting c)
    (change : Edit) : k ∈ (s.edited change).waiting c := by
  rcases s.channel_edited change c with hsame | ⟨j, -, hsent⟩
  · rwa [waiting_congr hsame]
  · rw [waiting] at h ⊢
    rw [hsent]
    cases hch : s.channels[c]? with
    | none => rw [hch] at h; cases h
    | some ch =>
        rw [hch] at h
        change k ∈ (ch.send j).waiting
        rw [Channel.send]
        split
        · exact List.mem_append_left _ h
        · exact h

/-- **What an edit announces arrives**, if the newest channel is open and has room. -/
theorem mem_waiting_edited {s : Store} {c : Nat} {k : Change} {change : Edit}
    (hopen : s.isOpen c = true) (hfed : s.isFed c = true) (hroom : s.hasRoom c = true)
    (hk : s.announced change = some k) : k ∈ (s.edited change).waiting c := by
  obtain ⟨ch, hch, ho⟩ := isOpen_iff.1 hopen
  have hlast : s.channels.size - 1 = c := by
    simp only [isFed, beq_iff_eq] at hfed
    omega
  rw [hasRoom, hch, Option.all_some, decide_eq_true_eq] at hroom
  rw [waiting, channels_edited, hk, Option.elim_some, Array.getElem?_modify, if_pos hlast, hch]
  change k ∈ (ch.send k).waiting
  rw [Channel.send, if_pos ⟨ho, hroom⟩]
  exact List.mem_append_right _ (List.mem_singleton.2 rfl)

/-- A change is taken from a channel: it was waiting there, and nothing else is gone. -/
theorem receive?_eq_some {s s' : Store} {i : Nat} {change : Change}
    (h : s.receive? i = some (change, s')) :
    ∃ ch rest, s.channels[i]? = some ch ∧ ch.waiting = change :: rest ∧
      s' = s.onChannel i fun _ => { ch with waiting := rest } := by
  rw [receive?] at h
  cases hch : s.channels[i]? with
  | none => simp [hch] at h
  | some ch =>
      cases hw : ch.waiting with
      | nil => simp [hch, Channel.receive?, hw] at h
      | cons head rest =>
          simp only [hch, Channel.receive?, hw, Option.bind_eq_bind, Option.bind_some,
            Option.pure_def, Option.some.injEq, Prod.mk.injEq] at h
          obtain ⟨rfl, rfl⟩ := h
          exact ⟨ch, rest, rfl, hw, rfl⟩

theorem isOpen_onChannel (s : Store) {i : Nat} {ch ch' : Channel} (hch : s.channels[i]? = some ch)
    (h : ch'.isOpen = ch.isOpen) : (s.onChannel i fun _ => ch').isOpen i = s.isOpen i := by
  rw [isOpen, isOpen, onChannel, Array.getElem?_modify, if_pos rfl, hch]
  exact h

/-- When the oldest change is taken, whatever else waits goes on waiting. -/
theorem waiting_onChannel (s : Store) {i : Nat} {ch : Channel} {change k : Change}
    {rest : List Change} (hch : s.channels[i]? = some ch) (hw : ch.waiting = change :: rest)
    (hk : k ∈ s.waiting i) :
    k ∈ (s.onChannel i fun _ => { ch with waiting := rest }).waiting i ∨ k = change := by
  rw [waiting, hch] at hk
  change k ∈ ch.waiting at hk
  rw [hw] at hk
  rw [waiting, onChannel, Array.getElem?_modify, if_pos rfl, hch]
  exact (List.mem_cons.1 hk).symm

/-! ### Whatever happens to a store -/

/-- What happens to a store: it changes, a note of a use reaches it, or somebody subscribes, takes a
change from a channel or gives the channel up. -/
inductive Op (s : Store) : Store → Prop
  | same : Op s s
  | edited (change : Edit) : Op s (s.edited change)
  | touched {id : Text} {moment : Instant} {s' : Store} (h : s.touch id moment = .ok s') : Op s s'
  | subscribed (capacity : Nat) : Op s (s.subscribe capacity).2
  | received {channel : Nat} {change : Change} {s' : Store}
      (h : s.receive? channel = some (change, s')) : Op s s'
  | closed (channel : Nat) : Op s (s.close channel)

/-- **Every record stays under its own id.** -/
theorem Lawful.op {s s' : Store} (h : s.Lawful) (hop : s.Op s') : s'.Lawful := by
  cases hop with
  | edited change => exact h.edited change
  | touched ht => exact h.touch ht
  | received hr =>
      obtain ⟨ch, rest, hch, hw, rfl⟩ := receive?_eq_some hr
      exact ⟨h.roles, h.clients⟩
  | _ => exact ⟨h.roles, h.clients⟩

/-- **No channel goes away.** -/
theorem Op.size_le {s s' : Store} (hop : s.Op s') : s.channels.size ≤ s'.channels.size := by
  cases hop with
  | same => exact Nat.le_refl _
  | edited change =>
      rw [channels_edited]
      cases s.announced change with
      | none => exact Nat.le_refl _
      | some k => exact Nat.le_of_eq Array.size_modify.symm
  | touched ht =>
      obtain rfl := touch_eq_ok ht
      exact Nat.le_refl _
  | subscribed capacity =>
      exact Nat.le_trans (Nat.le_succ _) (Nat.le_of_eq (Array.size_push _).symm)
  | received hr =>
      obtain ⟨ch, rest, hch, hw, rfl⟩ := receive?_eq_some hr
      exact Nat.le_of_eq Array.size_modify.symm
  | closed channel => exact Nat.le_of_eq Array.size_modify.symm

end Store

end DelegatedScopes
