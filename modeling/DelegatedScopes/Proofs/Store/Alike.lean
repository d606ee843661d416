import DelegatedScopes.Proofs.Client.Token
import DelegatedScopes.Proofs.Service.Run
import DelegatedScopes.Proofs.Store.Keyed
import Mathlib.Data.List.Forall2

/-!
# The store — stores that agree but for the tokens

No request and no change of a store looks at the token of a client.  Stores that agree but for the
tokens answer alike, and still agree after changes that do.

* `Agree`: maps with the same keys, whose entries look the same.
* `Store.Alike`: stores that agree but for the tokens of their clients.
* `Store.Alike.edited`, `Store.Alike.listClients`: what is kept by a change, and what is listed.
-/

namespace DelegatedScopes

variable {α β : Type} {f : α → β}

/-- Two maps with the same keys, whose entries look the same. -/
def Agree (f : α → β) (t t' : Std.TreeMap Text α) : Prop := ∀ k : Text, t[k]?.map f = t'[k]?.map f

namespace Agree

variable {t t' : Std.TreeMap Text α}

/-- An entry is in both maps or in none. -/
theorem cases (h : Agree f t t') (k : Text) :
    (t[k]? = none ∧ t'[k]? = none) ∨ ∃ x x', t[k]? = some x ∧ t'[k]? = some x' ∧ f x = f x' := by
  have hk := h k
  cases hx : t[k]? with
  | none =>
      rw [hx, Option.map_none, eq_comm, Option.map_eq_none_iff] at hk
      exact .inl ⟨rfl, hk⟩
  | some x =>
      rw [hx, Option.map_some, eq_comm, Option.map_eq_some_iff] at hk
      obtain ⟨x', hx', hf⟩ := hk
      exact .inr ⟨x, x', rfl, hx', hf.symm⟩

theorem refl (t : Std.TreeMap Text α) : Agree f t t := fun _ => rfl

theorem insert (h : Agree f t t') (k : Text) {x x' : α} (hx : f x = f x') :
    Agree f (t.insert k x) (t'.insert k x') := by
  intro j
  simp only [Std.TreeMap.getElem?_insert]
  split
  · exact congrArg some hx
  · exact h j

theorem erase (h : Agree f t t') (k : Text) : Agree f (t.erase k) (t'.erase k) := by
  intro j
  simp only [Std.TreeMap.getElem?_erase]
  split
  · rfl
  · exact h j

/-- Entries that look the same still do after a change that sees no more of them. -/
theorem modify (h : Agree f t t') (k : Text) {g : α → α}
    (hg : ∀ x x', f x = f x' → f (g x) = f (g x')) : Agree f (t.modify k g) (t'.modify k g) := by
  intro j
  simp only [Std.TreeMap.getElem?_modify, Std.LawfulEqCmp.compare_eq_iff_eq]
  split
  · obtain ⟨hx, hx'⟩ | ⟨x, x', hx, hx', hf⟩ := h.cases k
    · rw [hx, hx']
    · rw [hx, hx']
      exact congrArg some (hg x x' hf)
  · exact h j

/-- Maps that agree hold the same keys. -/
theorem contains_eq (h : Agree f t t') (k : Text) : t.contains k = t'.contains k := by
  rw [Std.TreeMap.contains_eq_isSome_getElem?, Std.TreeMap.contains_eq_isSome_getElem?,
    ← Option.isSome_map (f := f), h k, Option.isSome_map]

theorem equiv_map (h : Agree f t t') : (t.map fun _ => f).Equiv (t'.map fun _ => f) :=
  .of_forall_constGet?_eq fun k => by simpa using h k

/-- Maps that agree list entries that look the same, in the same order. -/
theorem values_eq (h : Agree f t t') : t.values.map f = t'.values.map f := by
  have hlist := h.equiv_map.toList_eq
  simp only [Std.TreeMap.toList_map] at hlist
  have hvalues := congrArg (List.map Prod.snd) hlist
  simpa [Role.values_eq_map, Function.comp_def] using hvalues

/-- A search that goes by what entries look like finds such as look the same. -/
theorem map_find?_eq {p : α → Bool} (hp : ∀ x x', f x = f x' → p x = p x') {l l' : List α}
    (h : l.map f = l'.map f) : (l.find? p).map f = (l'.find? p).map f := by
  induction l generalizing l' with
  | nil =>
      obtain rfl := List.map_eq_nil_iff.1 h.symm
      rfl
  | cons x l ih =>
      obtain ⟨x', l, rfl, hx, hl⟩ := List.map_eq_cons_iff.1 h.symm
      rw [List.find?_cons, List.find?_cons, hp x' x hx]
      split
      · exact congrArg some hx.symm
      · exact ih hl.symm

/-- Entries that look the same, put under their own keys. -/
theorem byKey {key : α → Text} (hkey : ∀ x x', f x = f x' → key x = key x') {l l' : List α}
    (h : l.map f = l'.map f) : Agree f (byKey key l) (byKey key l') := by
  intro k
  rw [getElem?_byKey, getElem?_byKey]
  refine map_find?_eq (fun x x' hx => by rw [hkey x x' hx]) ?_
  rw [List.map_reverse, List.map_reverse, h]

end Agree

/-! ### Stores -/

/-- Stores that agree but for the tokens of their clients. -/
structure Store.Alike (s s' : Store) : Prop where
  roles : Agree id s.roles s'.roles
  clients : Agree Client.tokenless s.clients s'.clients
  channels : s.channels = s'.channels
  unavailable : s.unavailable = s'.unavailable
  touches : s.touches = s'.touches

/-- Changes that agree but for the token of a client. -/
inductive Edit.Alike : Edit → Edit → Prop
  | putClient {c c' : Client} (h : c.tokenless = c'.tokenless) :
      Alike (.putClient c) (.putClient c')
  | same (change : Edit) : Alike change change

namespace Store.Alike

variable {s s' : Store}

theorem withRoles (h : s.Alike s') {roles roles' : Std.TreeMap Text Role}
    (hroles : Agree id roles roles') :
    { s with roles := roles }.Alike { s' with roles := roles' } := { h with roles := hroles }

theorem withClients (h : s.Alike s') {clients clients' : Std.TreeMap Text Client}
    (hclients : Agree Client.tokenless clients clients') :
    { s with clients := clients }.Alike { s' with clients := clients' } :=
  { h with clients := hclients }

theorem onChannel (h : s.Alike s') (i : Nat) (f : Channel → Channel) :
    (s.onChannel i f).Alike (s'.onChannel i f) :=
  { h with channels := congrArg (·.modify i f) h.channels }

/-- A change is queued alike, since the channels are the same. -/
theorem notify (h : s.Alike s') (change : Change) : (s.notify change).Alike (s'.notify change) := by
  unfold Store.notify
  rw [h.channels]
  exact h.onChannel _ _

theorem subscribe (h : s.Alike s') (capacity : Nat) :
    (s.subscribe capacity).2.Alike (s'.subscribe capacity).2 :=
  { h with channels := congrArg (·.push (.new capacity)) h.channels }

/-- What is received is the same. -/
theorem receive? (h : s.Alike s') (i : Nat) :
    (s.receive? i = none ∧ s'.receive? i = none) ∨ ∃ change a a',
      s.receive? i = some (change, a) ∧ s'.receive? i = some (change, a') ∧ a.Alike a' := by
  unfold Store.receive?
  rw [h.channels]
  rcases s'.channels[i]? with _ | c
  · exact .inl ⟨rfl, rfl⟩
  · rcases hc : c.receive? with _ | ⟨change, c'⟩
    · exact .inl ⟨by simp [hc], by simp [hc]⟩
    · exact .inr ⟨change, _, _, by simp [hc], by simp [hc], h.onChannel i fun _ => c'⟩

theorem isFed (h : s.Alike s') (i : Nat) : s.isFed i = s'.isFed i := by
  unfold Store.isFed
  rw [h.channels]

/-! ### Changes -/

theorem deleteRole (h : s.Alike s') (id : Text) :
    (s.deleteRole id).2.Alike (s'.deleteRole id).2 := by
  unfold Store.deleteRole
  rw [h.roles.contains_eq]
  split
  · exact (h.withRoles (h.roles.erase id)).notify .roles
  · exact h

theorem deleteClient (h : s.Alike s') (id : Text) :
    (s.deleteClient id).2.Alike (s'.deleteClient id).2 := by
  unfold Store.deleteClient
  rw [h.clients.contains_eq]
  split
  · exact (h.withClients (h.clients.erase id)).notify .clients
  · exact h

/-- Clients that agree but for their tokens are put under the same id. -/
theorem putClient (h : s.Alike s') {c c' : Client} (hc : c.tokenless = c'.tokenless) :
    (s.putClient c).Alike (s'.putClient c') := by
  unfold Store.putClient
  rw [Client.id_eq hc]
  exact (h.withClients (h.clients.insert _ hc)).notify .clients

theorem checkAvailable (h : s.Alike s') : s.checkAvailable = s'.checkAvailable := by
  unfold Store.checkAvailable
  rw [h.unavailable]

/-- A use is recorded alike, or fails with the same error. -/
theorem touch (h : s.Alike s') (id : Text) (moment : Instant) :
    (∃ e, s.touch id moment = .error e ∧ s'.touch id moment = .error e) ∨
      ∃ a a', s.touch id moment = .ok a ∧ s'.touch id moment = .ok a' ∧ a.Alike a' := by
  unfold Store.touch
  rw [h.checkAvailable]
  rcases s'.checkAvailable with e | _
  · exact .inl ⟨e, rfl, rfl⟩
  · refine .inr ⟨_, _, rfl, rfl, { h with clients := ?_, touches := congrArg (· + 1) h.touches }⟩
    exact h.clients.modify id fun c c' hc => congrArg (usedAt · moment) hc

/-- **Changes that agree but for a token keep stores alike.** -/
theorem edited (h : s.Alike s') {change change' : Edit} (hchange : change.Alike change') :
    (s.edited change).Alike (s'.edited change') := by
  cases hchange with
  | putClient hc => exact h.putClient hc
  | same =>
      cases change with
      | putRole r => exact (h.withRoles (h.roles.insert r.id rfl)).notify .roles
      | deleteRole id => exact h.deleteRole id
      | putClient c => exact h.putClient rfl
      | deleteClient id => exact h.deleteClient id
      | touch id moment =>
          change ((s.touch id moment).toOption.getD s).Alike ((s'.touch id moment).toOption.getD s')
          obtain ⟨e, ht, ht'⟩ | ⟨a, a', ht, ht', ha⟩ := h.touch id moment
          · rw [ht, ht']
            exact h
          · rw [ht, ht']
            exact ha
      | setUnavailable value => exact { h with unavailable := rfl }

/-! ### Listings -/

/-- Stores that are alike list the same roles. -/
theorem listRoles (h : s.Alike s') : s.listRoles = s'.listRoles := by
  have hvalues := h.roles.values_eq
  rw [List.map_id, List.map_id] at hvalues
  unfold Store.listRoles
  rw [h.checkAvailable, hvalues]

/-- Stores that are alike list clients that agree but for their tokens. -/
theorem listClients (h : s.Alike s') :
    s.listClients.map (List.map Client.tokenless) =
      s'.listClients.map (List.map Client.tokenless) := by
  unfold Store.listClients
  rw [h.checkAvailable]
  rcases s'.checkAvailable with e | _
  · rfl
  · exact congrArg Except.ok h.clients.values_eq

end Store.Alike

end DelegatedScopes
