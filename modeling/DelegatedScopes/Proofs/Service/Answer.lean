import DelegatedScopes.Proofs.Service.Cache

/-!
# The service — answers

Whoever asks a service gets an answer that its two snapshots give.  Only the last use of a client
comes from elsewhere: the service remembers what it has written back.  Whether an expansion was kept
does not show.

* `Answer`, `Service.answer`: what a question is answered with.
* `Service.served`, `Service.Fresh.answer_eq`: the answer is the one that the snapshots give.
* `Service.Fresh.answer_notReady_iff`: whoever asks before the first load is told so, and nobody
  else is.
-/

namespace DelegatedScopes

/-- What a question is answered with: scopes, a role if there is one, a client if there is one. -/
inductive Answer
  | scopes (result : Except ResolutionError (List Text))
  | role (result : Except ResolutionError (Option RoleSnapshot))
  | client (result : Except ResolutionError (Option ClientSnapshot))

/-- Why a question is not answered, if it is not. -/
def Answer.error? : Answer → Option ResolutionError
  | .scopes (.error e) | .role (.error e) | .client (.error e) => some e
  | _ => none

namespace Answer

variable {e : ResolutionError}

@[simp] theorem error?_scopes {result : Except ResolutionError (List Text)} :
    (scopes result).error? = some e ↔ result = .error e := by
  cases result <;> simp [error?]

@[simp] theorem error?_role {result : Except ResolutionError (Option RoleSnapshot)} :
    (role result).error? = some e ↔ result = .error e := by
  cases result <;> simp [error?]

@[simp] theorem error?_client {result : Except ResolutionError (Option ClientSnapshot)} :
    (client result).error? = some e ↔ result = .error e := by
  cases result <;> simp [error?]

end Answer

theorem map_eq_error_iff {α β : Type} {result : Except ResolutionError α} {f : α → β}
    {e : ResolutionError} : result.map f = .error e ↔ result = .error e := by
  cases result <;> simp [Except.map]

namespace Service

/-- The answer to a question. -/
def answer (s : Service) : Query → Answer
  | .resolve scopes => .scopes (s.resolve scopes).1
  | .loadRole id => .role (s.loadRole id)
  | .loadClient id now => .client (s.loadClient id now).1

/-- The answer that a resolver and a table of clients give, where clients were last used at certain
times. -/
def served (r : Resolver) (table : ClientTable) (lastUse : Client → Instant → Instant) :
    Query → Answer
  | .resolve scopes => .scopes (r.resolve scopes)
  | .loadRole id =>
    .role <| (r.expandRole id).map fun expanded =>
      expanded.bind fun scopes => (r.role? id).map fun role => ⟨role, scopes⟩
  | .loadClient id now =>
    .client <| match table.clients[id]? with
      | none => .ok none
      | some c => (r.resolve c.activationScopes).map fun scopes =>
          some { ClientSnapshot.of c scopes with
            details := { c.details with lastUsed := lastUse c now } }

variable {s : Service} {r : Resolver} {query : Query}

/-- **Before the first load every question is refused.** -/
theorem answer_of_uninitialized (h : s.lifecycle = .uninitialized) (query : Query) :
    (s.answer query).error? = some .notReady := by
  have hready : s.isReady = false := by rw [isReady, h]; rfl
  cases query with
  | resolve scopes => simp [answer, Service.resolve, hready]
  | loadRole id => simp [answer, loadRole, hready]
  | loadClient id now => simp [answer, loadClient, hready]

/-- **What is answered is what the snapshots give.** -/
theorem Fresh.answer_eq (h : s.Fresh) (hready : s.lifecycle ≠ .uninitialized) (query : Query) :
    s.answer query =
      served s.resolver s.table (fun c now => (s.recordUse c now).1) query := by
  have hready : s.isReady = true := bne_iff_ne.2 hready
  cases query with
  | resolve scopes => simp [answer, served, Service.resolve, hready]
  | loadRole id =>
      rw [answer, served, loadRole, if_pos hready]
      cases s.resolver.expandRole id with
      | error e => rfl
      | ok expanded => cases expanded <;> rfl
  | loadClient id now =>
      rw [answer, served, loadClient, if_pos hready]
      cases hc : s.table.clients[id]? with
      | none => rfl
      | some c =>
          have hexp := h.expansionOf hc
          have huse := s.recordUse_expansionOf c c now
          dsimp only
          rw [← hexp]
          generalize s.expansionOf c = found at huse ⊢
          obtain ⟨result, s'⟩ := found
          cases result with
          | error e => rfl
          | ok scopes => simp [huse, Except.map, ClientSnapshot.of]

/-- No expansion is refused because nothing was loaded. -/
theorem served_error?_ne (r : Resolver) (table : ClientTable)
    (lastUse : Client → Instant → Instant) (query : Query) :
    (served r table lastUse query).error? ≠ some .notReady := by
  have hresolve : ∀ scopes, r.resolve scopes ≠ .error .notReady := fun scopes h => by
    cases Resolver.resolve_error h
  cases query with
  | resolve scopes => exact fun h => hresolve scopes (Answer.error?_scopes.1 h)
  | loadRole id =>
      intro h
      rw [served, Answer.error?_role, map_eq_error_iff, Resolver.expandRole] at h
      split at h
      · cases h
      · split at h <;> exact hresolve _ (map_eq_error_iff.1 h)
  | loadClient id now =>
      intro h
      rw [served, Answer.error?_client] at h
      split at h
      · cases h
      · exact hresolve _ (map_eq_error_iff.1 h)

/-- **A question is refused until the first load is done, and no longer.** -/
theorem Fresh.answer_notReady_iff (h : s.Fresh) (query : Query) :
    (s.answer query).error? = some .notReady ↔ s.lifecycle = .uninitialized := by
  refine ⟨fun hanswer => ?_, fun hlifecycle => answer_of_uninitialized hlifecycle query⟩
  by_contra hready
  rw [h.answer_eq hready] at hanswer
  exact served_error?_ne _ _ _ _ hanswer

end Service
end DelegatedScopes
