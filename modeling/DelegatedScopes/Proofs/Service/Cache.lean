import DelegatedScopes.Proofs.Resolver.Run
import DelegatedScopes.Proofs.Service.Step
import DelegatedScopes.Proofs.Store.Keyed

/-!
# The service — kept expansions

The expansion of a client is kept under its id alone, with the numbers of the two snapshots that it
was worked out from.  It is used again while both numbers are those of the snapshots in use.

* `Service.Fresh`: what is kept under the numbers in use is what the resolver in use makes of the
  client in use.  Every operation keeps this (`Service.Fresh.op`).
* `Machine.loadClient_eq`: so the answer to whoever asks for a client never shows whether its
  expansion was kept.

New roles raise the number of the resolver, so what is kept from before them is never used again;
new clients clear everything.  A rebuild that fails changes neither snapshot.
-/

namespace DelegatedScopes

namespace Service

/-! ### Uses -/

theorem fst_recordUse (s : Service) (c : Client) (now : Instant) :
    (s.recordUse c now).1 =
      if s.isStale (s.lastUse c) now then
        match s.touched[c.id]? with
        | some written => if s.isStale written now then now else written
        | none => now
      else s.lastUse c := by
  rw [recordUse]
  split
  · dsimp only
    cases s.touched[c.id]? with
    | none => rfl
    | some written => dsimp only; split <;> rfl
  · rfl

/-- The last use of a client does not depend on what is kept of expansions. -/
theorem recordUse_expansionOf (s : Service) (c d : Client) (now : Instant) :
    ((s.expansionOf d).2.recordUse c now).1 = (s.recordUse c now).1 := by
  obtain ⟨counters, expansions, h, -⟩ := s.frame_expansionOf d
  rw [fst_recordUse, fst_recordUse, h]
  rfl

/-! ### Kept expansions -/

/-- What is kept under the numbers of the snapshots in use is what the resolver makes of the client.
No number is ahead of the resolver's, and every client stands under its own id. -/
structure Fresh (s : Service) : Prop where
  keyed : Keyed Client.id s.table.clients
  le : ∀ (id : Text) (kept : CachedExpansion), s.expansions[id]? = some kept →
    kept.generation ≤ s.generation
  resolve : ∀ (id : Text) (kept : CachedExpansion), s.expansions[id]? = some kept →
    kept.generation = s.generation → kept.epoch = s.table.epoch →
      ∃ c, s.table.clients[id]? = some c ∧ s.resolver.resolve c.activationScopes = .ok kept.scopes

theorem fresh_new (config : Config) : (new config).Fresh where
  keyed := keyed_byKey []
  le id kept h := by simp [new] at h
  resolve id kept h := by simp [new] at h

namespace Fresh

variable {s : Service}

theorem resolve_of_cached? (h : s.Fresh) {id : Text} {c : Client} {scopes : List Text}
    (hc : s.table.clients[id]? = some c) (hk : s.cached? id = some scopes) :
    s.resolver.resolve c.activationScopes = .ok scopes := by
  rw [cached?] at hk
  split at hk
  · rename_i kept hkept
    simp only [Option.ite_none_right_eq_some, Option.some.injEq] at hk
    obtain ⟨⟨hgen, hepoch⟩, rfl⟩ := hk
    obtain ⟨d, hd, hres⟩ := h.resolve id kept hkept hgen hepoch
    rw [hc] at hd
    obtain rfl := Option.some.inj hd
    exact hres
  · cases hk

/-- **The expansion of a client is the resolver's, whether or not it was kept.** -/
theorem expansionOf (h : s.Fresh) {id : Text} {c : Client} (hc : s.table.clients[id]? = some c) :
    (s.expansionOf c).1 = s.resolver.resolve c.activationScopes := by
  rw [Service.expansionOf]
  split
  · rename_i scopes hk
    exact (h.resolve_of_cached? (h.keyed id c hc ▸ hc) hk).symm
  · dsimp only
    split <;> rename_i hres <;> exact hres.symm

theorem expansionOf_snd (h : s.Fresh) {id : Text} {c : Client}
    (hc : s.table.clients[id]? = some c) : (s.expansionOf c).2.Fresh := by
  rw [Service.expansionOf]
  split
  · exact ⟨h.keyed, h.le, h.resolve⟩
  · dsimp only
    split
    · exact ⟨h.keyed, h.le, h.resolve⟩
    · rename_i scopes hres
      have hkey : c.id = id := h.keyed id c hc
      have hcases : ∀ {j : Text} {kept : CachedExpansion},
          (s.expansions.insert c.id ⟨s.generation, s.table.epoch, scopes⟩)[j]? = some kept →
            (c.id = j ∧ kept = ⟨s.generation, s.table.epoch, scopes⟩) ∨
              s.expansions[j]? = some kept := by
        intro j kept hj
        simp only [Std.TreeMap.getElem?_insert, Std.LawfulEqCmp.compare_eq_iff_eq] at hj
        split at hj
        · rename_i hij
          exact Or.inl ⟨hij, (Option.some.inj hj).symm⟩
        · exact Or.inr hj
      refine ⟨h.keyed, fun j kept hj => ?_, fun j kept hj hgen hepoch => ?_⟩
      · rcases hcases hj with ⟨-, rfl⟩ | hj
        · exact Nat.le_refl _
        · exact h.le j kept hj
      · rcases hcases hj with ⟨rfl, rfl⟩ | hj
        · exact ⟨c, hkey ▸ hc, hres⟩
        · exact h.resolve j kept hj hgen hepoch

theorem loadClient_snd (h : s.Fresh) (id : Text) (now : Instant) :
    (s.loadClient id now).2.Fresh := by
  rw [loadClient]
  split
  · split
    · exact h
    · rename_i c hc
      have hsnd := h.expansionOf_snd hc
      split
      · rename_i e s' heq
        rwa [heq] at hsnd
      · rename_i expanded s' heq
        rw [heq] at hsnd
        obtain ⟨touched, counters, writeBacks, hframe, -⟩ := s'.frame_recordUse c now
        dsimp only
        rw [hframe]
        exact ⟨hsnd.keyed, hsnd.le, hsnd.resolve⟩
  · exact h

theorem asked (h : s.Fresh) (query : Query) : (s.asked query).Fresh := by
  cases query with
  | resolve scopes =>
      rw [Service.asked, Service.resolve]
      split
      · exact ⟨h.keyed, h.le, h.resolve⟩
      · exact h
  | loadRole id => exact h
  | loadClient id now => exact h.loadClient_snd id now

/-- New roles leave what is kept under an older number. -/
theorem publishResolver (h : s.Fresh) (r : Resolver) : (s.publishResolver r).Fresh where
  keyed := h.keyed
  le id kept hkept := Nat.le_succ_of_le (h.le id kept hkept)
  resolve id kept hkept hgen := absurd hgen (Nat.ne_of_lt (Nat.lt_succ_of_le (h.le id kept hkept)))

theorem publishClients (s : Service) (listed : List Client) : (s.publishClients listed).Fresh where
  keyed := keyed_byKey listed
  le id kept hkept := by simp [Service.publishClients] at hkept
  resolve id kept hkept := by simp [Service.publishClients] at hkept

theorem publish (h : s.Fresh) (resolver : Option Resolver) (clients : Option (List Client)) :
    (s.publish resolver clients).Fresh := by
  have hr : (resolver.elim s s.publishResolver).Fresh := by
    cases resolver with
    | none => exact h
    | some r => exact h.publishResolver r
  have hc : (clients.elim (resolver.elim s s.publishResolver)
      (resolver.elim s s.publishResolver).publishClients).Fresh := by
    cases clients with
    | none => exact hr
    | some listed => exact publishClients _ listed
  exact ⟨hc.keyed, hc.le, hc.resolve⟩

/-- **Every operation of a service keeps its expansions fresh.** -/
theorem op {s' : Service} (h : s.Fresh) (hop : s.Op s') : s'.Fresh := by
  cases hop with
  | asked query => exact h.asked query
  | request change => cases change <;> exact ⟨h.keyed, h.le, h.resolve⟩
  | beginRebuild =>
      rw [beginRebuild]
      split
      · exact h
      · exact ⟨h.keyed, h.le, h.resolve⟩
  | giveUp => exact ⟨h.keyed, h.le, h.resolve⟩
  | publish resolver clients started =>
      have hp := h.publish resolver clients
      exact ⟨hp.keyed, hp.le, hp.resolve⟩
  | tidy => exact ⟨h.keyed, h.le, h.resolve⟩

end Fresh

end Service

namespace Machine

/-- Whatever a new service has come to, its expansions are fresh. -/
theorem Reachable.fresh {config : Config} {m : Machine} (h : Reachable config m) :
    m.service.Fresh :=
  Reachable.keeps (I := fun m => m.service.Fresh) (fun he ha => ha.op (op_of_next? he))
    (fun _ => Service.fresh_new config) h

/-- **A client is answered with what the resolver makes of it now.**  Whatever calls, queries,
rebuilds and changes came before, a service that has loaded its snapshots knows just the clients of
its table.  The expansion of such a client is what the resolver in use makes of the client's scopes
and the scope that assumes its own role; it may exceed the limit, and nothing else goes wrong.  All
else is as in the table, but for the last use. -/
theorem loadClient_eq {config : Config} {m : Machine} (h : Reachable config m)
    (hready : m.service.isReady = true) (id : Text) (now : Instant) :
    (m.service.loadClient id now).1 =
        (match m.service.table.clients[id]? with
        | none => .ok none
        | some c =>
          match m.service.resolver.resolve (c.scopes ++ ["assume:client-id:".toList ++ id]) with
          | .error _ => .error (.stepLimit m.service.resolver.maxSteps)
          | .ok scopes => .ok (some
            { id
              description := c.description
              expires := c.expires
              disabled := c.disabled
              scopes := c.scopes
              expandedScopes := scopes
              details := { c.details with lastUsed := (m.service.recordUse c now).1 } })) := by
  rw [Service.loadClient, if_pos hready]
  cases hc : m.service.table.clients[id]? with
  | none => rfl
  | some c =>
      have hfresh := h.fresh
      have hexp := hfresh.expansionOf hc
      have huse := m.service.recordUse_expansionOf c c now
      obtain rfl : c.id = id := hfresh.keyed id c hc
      rw [Client.activationScopes] at hexp
      dsimp only
      generalize m.service.expansionOf c = answer at hexp huse ⊢
      obtain ⟨result, s'⟩ := answer
      dsimp only at hexp huse ⊢
      subst hexp
      cases hres :
          m.service.resolver.resolve (c.scopes ++ ["assume:client-id:".toList ++ c.id]) with
      | error e =>
          obtain rfl := Resolver.resolve_error hres
          rfl
      | ok scopes => simp only [ClientSnapshot.of, huse]

/-- A client that holds everything. -/
def rootClient : Client :=
  ⟨"root".toList, [], "t".toList, ⟨86400, 0⟩, ["*".toList], false, .new ⟨0, 0⟩⟩

/-- A role that has nothing to do with that client. -/
def deskRole : Role := .plain "desk".toList ["print".toList] ⟨0, 0⟩

/-- A service is set up, and the client is asked for. -/
def rootVisit : List Event :=
  [.setup none, .move 0, .move 0, .move 0, .answerRoles 0 (.ok [deskRole]),
    .answerClients 0 (.ok [rootClient]), .move 0, .ask (.loadClient "root".toList ⟨1, 0⟩)]

/-- The client is asked for once more: this time its expansion was kept. -/
theorem loadClient_eq_root :
    ∃ m, Reachable ⟨10, 100⟩ m ∧ m.service.isReady = true ∧
      m.service.cached? "root".toList = some ["*".toList] ∧
      (m.service.loadClient "root".toList ⟨5, 0⟩).1 =
        .ok (some (.of rootClient ["*".toList])) := by
  have hplay : ((new ⟨10, 100⟩ (.ofEntries [deskRole] [rootClient])).play? rootVisit).map
      (fun m => (m.service.isReady, m.service.cached? "root".toList,
        m.service.table.clients["root".toList]?)) =
      some (true, some ["*".toList], some rootClient) := by decide +kernel
  have hload : ((new ⟨10, 100⟩ (.ofEntries [deskRole] [rootClient])).play? rootVisit).map
      (fun m => (m.service.resolver.resolve
          (rootClient.scopes ++ ["assume:client-id:".toList ++ "root".toList]),
        (m.service.recordUse rootClient ⟨5, 0⟩).1)) =
      some (.ok ["*".toList], ⟨0, 0⟩) := by decide +kernel
  obtain ⟨m, hm, hfacts⟩ := Option.map_eq_some_iff.1 hplay
  rw [hm] at hload
  obtain ⟨hready, hfacts⟩ := Prod.mk.inj hfacts
  obtain ⟨hkept, hclient⟩ := Prod.mk.inj hfacts
  obtain ⟨hres, huse⟩ := Prod.mk.inj (Option.some.inj hload)
  have hreach : Reachable ⟨10, 100⟩ m := ⟨_, _, run_of_play? hm⟩
  refine ⟨m, hreach, hready, hkept, ?_⟩
  rw [loadClient_eq hreach hready, hclient]
  dsimp only
  rw [hres, huse]
  rfl

end Machine

end DelegatedScopes
