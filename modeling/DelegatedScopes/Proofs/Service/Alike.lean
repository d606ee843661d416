import DelegatedScopes.Proofs.Service.Answer
import DelegatedScopes.Proofs.Store.Alike
import DelegatedScopes.Service.Stats

/-!
# The service — services that agree but for the tokens

Two services that agree but for the tokens of their clients answer alike, count alike, and still
agree but for the tokens after whatever is done to both.  A table is only asked for the client with
an id, and of that client only what it shows is used.

* `Service.Alike`: services that agree but for the tokens.
* `Service.Alike.answer_eq`, `Service.Alike.stats_eq`: they show the same.
* `Service.Alike.asked`, `Service.Alike.publish`: questions and rebuilds keep them alike.
-/

namespace DelegatedScopes

/-- Tables of clients that agree but for the tokens. -/
structure ClientTable.Alike (t t' : ClientTable) : Prop where
  epoch : t'.epoch = t.epoch
  clients : Agree Client.tokenless t.clients t'.clients

/-- The service with another table. -/
def Service.withTable (s : Service) (table : ClientTable) : Service := { s with table := table }

/-- Services that agree but for the tokens in their tables of clients. -/
inductive Service.Alike (s : Service) : Service → Prop
  | intro {table : ClientTable} (h : s.table.Alike table) : Alike s (s.withTable table)

namespace Service

variable {s s' : Service} {table : ClientTable}

/-- The cache is asked for the epoch of the table, not for what stands in it. -/
theorem cached?_withTable (h : table.epoch = s.table.epoch) (id : Text) :
    (s.withTable table).cached? id = s.cached? id := by
  simp only [cached?, withTable, generation, h]
  rfl

/-- The expansion of a client does not depend on the other clients, or on its token. -/
theorem expansionOf_withTable (h : table.epoch = s.table.epoch) {c c' : Client}
    (hc : c.tokenless = c'.tokenless) :
    (s.withTable table).expansionOf c' =
      ((s.expansionOf c).1, (s.expansionOf c).2.withTable table) := by
  simp only [expansionOf, cached?_withTable h, ← Client.id_eq hc, ← Client.activationScopes_eq hc]
  rcases s.cached? c.id with _ | scopes
  · simp only [withTable, count, generation, h]
    rcases s.resolver.resolve c.activationScopes with e | scopes <;> rfl
  · rfl

/-- When a client was last used does not depend on its token. -/
theorem lastUse_withTable {c c' : Client} (hc : c.tokenless = c'.tokenless) :
    (s.withTable table).lastUse c' = s.lastUse c := by
  simp only [lastUse, withTable, ← Client.id_eq hc, ← Client.details_eq hc]

/-- A use is recorded without a look at the table, or at the token. -/
theorem recordUse_withTable {c c' : Client} (hc : c.tokenless = c'.tokenless) (now : Instant) :
    (s.withTable table).recordUse c' now =
      ((s.recordUse c now).1, (s.recordUse c now).2.withTable table) := by
  have hstale : ∀ used, (s.withTable table).isStale used now = s.isStale used now := fun _ => rfl
  have htouched : (s.withTable table).touched = s.touched := rfl
  simp only [recordUse, lastUse_withTable hc, hstale, htouched, ← Client.id_eq hc]
  by_cases h : s.isStale (s.lastUse c) now = true
  · simp only [if_pos h]
    rcases s.touched[c.id]? with _ | written
    · rfl
    · dsimp only
      split <;> rfl
  · simp only [if_neg h]

-- A service is itself with its own table, so what commutes with a change of table keeps the table.

/-- An expansion leaves the table as it is. -/
theorem table_expansionOf (s : Service) (c : Client) : (s.expansionOf c).2.table = s.table := by
  have h : (s.withTable s.table).expansionOf c = _ := expansionOf_withTable rfl rfl
  exact congrArg (fun found => found.2.table) h

/-- A record of use leaves the table as it is. -/
theorem table_recordUse (s : Service) (c : Client) (now : Instant) :
    (s.recordUse c now).2.table = s.table := by
  have h : (s.withTable s.table).recordUse c now = _ := recordUse_withTable rfl now
  exact congrArg (fun found => found.2.table) h

namespace Alike

theorem refl (s : Service) : s.Alike s := .intro ⟨rfl, .refl _⟩

/-- A change that does not concern the table. -/
theorem map {g : Service → Service} (hg : ∀ s table, g (s.withTable table) = (g s).withTable table)
    (h : s.Alike s') : (g s).Alike (g s') := by
  obtain ⟨h⟩ := h
  have htable : (g s).table = s.table := by
    have hsame := congrArg Service.table (hg s s.table)
    exact hsame
  rw [hg]
  exact .intro (htable ▸ h)

/-- What does not look at the table is the same. -/
theorem congr {β : Type} {g : Service → β} (hg : ∀ s table, g (s.withTable table) = g s)
    (h : s.Alike s') : g s = g s' := by
  obtain ⟨-⟩ := h
  exact (hg s _).symm

/-! ### Questions -/

/-- The client with an id is loaded alike: by what it shows, and with the same changes. -/
theorem loadClient (h : s.Alike s') (id : Text) (now : Instant) :
    (s.loadClient id now).1 = (s'.loadClient id now).1 ∧
      (s.loadClient id now).2.Alike (s'.loadClient id now).2 := by
  have hsame := h
  obtain ⟨h⟩ := h
  have hready : ∀ table, (s.withTable table).isReady = s.isReady := fun _ => rfl
  have hclients : ∀ table, (s.withTable table).table = table := fun _ => rfl
  unfold Service.loadClient
  rw [hready, hclients]
  split
  · obtain ⟨hc, hc'⟩ | ⟨c, c', hc, hc', heq⟩ := h.clients.cases id
    · rw [hc, hc']
      exact ⟨rfl, hsame⟩
    · have htable := table_expansionOf s c
      rw [hc, hc']
      dsimp only
      rw [expansionOf_withTable h.epoch heq]
      generalize s.expansionOf c = found at htable
      obtain ⟨e | scopes, a⟩ := found
      · exact ⟨rfl, .intro (s := a) (htable ▸ h)⟩
      · dsimp only
        rw [recordUse_withTable heq, ClientSnapshot.of_eq heq]
        have huse := (table_recordUse a c now).trans htable
        exact ⟨rfl, .intro (huse ▸ h)⟩
  · exact ⟨rfl, hsame⟩

/-- **Services that agree but for the tokens answer alike.** -/
theorem answer_eq (h : s.Alike s') (query : Query) : s.answer query = s'.answer query := by
  cases query with
  | resolve scopes =>
      obtain ⟨-⟩ := h
      have hready : ∀ table, (s.withTable table).isReady = s.isReady := fun _ => rfl
      simp only [answer, Service.resolve, hready]
      split <;> rfl
  | loadRole id =>
      obtain ⟨-⟩ := h
      rfl
  | loadClient id now => exact congrArg Answer.client (h.loadClient id now).1

/-- **A question keeps services alike**, whatever it counts, caches or records. -/
theorem asked (h : s.Alike s') (query : Query) : (s.asked query).Alike (s'.asked query) := by
  cases query with
  | resolve scopes =>
      refine h.map (g := fun s => (s.resolve scopes).2) fun s table => ?_
      have hready : (s.withTable table).isReady = s.isReady := rfl
      simp only [Service.resolve, hready]
      split <;> rfl
  | loadRole id => exact h
  | loadClient id now => exact (h.loadClient id now).2

theorem request (h : s.Alike s') (change : Change) :
    (s.request change).Alike (s'.request change) :=
  h.map (g := fun s => s.request change) fun _ _ => by cases change <;> rfl

theorem beginRebuild (h : s.Alike s') : s.beginRebuild.Alike s'.beginRebuild := by
  refine h.map fun s table => ?_
  have hlifecycle : (s.withTable table).lifecycle = s.lifecycle := rfl
  simp only [Service.beginRebuild, hlifecycle]
  split <;> rfl

theorem giveUp (h : s.Alike s') : s.giveUp.Alike s'.giveUp := h.map fun _ _ => rfl

/-- Listings that agree but for the tokens are published as tables that do. -/
theorem publishClients (h : s.Alike s') {listed listed' : List Client}
    (hl : listed.map Client.tokenless = listed'.map Client.tokenless) :
    (s.publishClients listed).Alike (s'.publishClients listed') := by
  obtain @⟨table, h⟩ := h
  have hclients : Agree Client.tokenless (byKey Client.id listed) (byKey Client.id listed') :=
    .byKey (fun _ _ => Client.id_eq) hl
  have hahead : isAhead (byKey Client.id listed) = isAhead (byKey Client.id listed') := by
    funext id written
    unfold isAhead
    obtain ⟨hc, hc'⟩ | ⟨c, c', hc, hc', heq⟩ := hclients.cases id
    · rw [hc, hc']
    · rw [hc, hc']
      dsimp only
      rw [Client.details_eq heq]
  have hpublish : (s.withTable table).publishClients listed' =
      (s.publishClients listed).withTable ⟨table.epoch + 1, byKey Client.id listed'⟩ := by
    change ((s.withTable table).publishClients listed') =
      { s with
        table := ⟨table.epoch + 1, byKey Client.id listed'⟩
        touched := s.touched.filter (isAhead (byKey Client.id listed))
        expansions := ∅ }
    rw [hahead]
    rfl
  rw [hpublish]
  exact .intro ⟨congrArg (· + 1) h.epoch, hclients⟩

/-- **A rebuild keeps services alike** if what it read is. -/
theorem publish (h : s.Alike s') (resolver : Option Resolver)
    {clients clients' : Option (List Client)}
    (hc : clients.map (List.map Client.tokenless) = clients'.map (List.map Client.tokenless)) :
    (s.publish resolver clients).Alike (s'.publish resolver clients') := by
  have hresolver : (resolver.elim s s.publishResolver).Alike
      (resolver.elim s' s'.publishResolver) := by
    cases resolver with
    | none => exact h
    | some r => exact h.map (g := fun s => s.publishResolver r) fun _ _ => rfl
  have hend : ∀ {a a' : Service}, a.Alike a' → (a.publish none none).Alike (a'.publish none none) :=
    fun ha => ha.map (g := fun a => a.publish none none) fun _ _ => rfl
  rcases clients with _ | listed <;> rcases clients' with _ | listed'
  · exact hend hresolver
  · cases hc
  · cases hc
  · exact hend (hresolver.publishClients (Option.some.inj hc))

end Alike

end Service

end DelegatedScopes
