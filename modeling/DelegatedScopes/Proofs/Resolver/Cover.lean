import DelegatedScopes.Proofs.Resolver.Run
import Mathlib.Data.List.Induction

/-!
# Resolver — the cover test

* `Expansion.scopes_ofScopes`: the scopes that arrive are the scopes added, each where it was added
  first.
* `Expansion.covers_exact`: whatever was added, the cover test holds of a scope just when another
  scope met implies it, and each scope added is queued once.

The test probes the set of literal parts with every beginning of a scope's own literal part.  So it
is exact as long as that set has the literal parts of the wildcard scopes met and no others, which
every addition keeps (`Expansion.Valid`); and it must not find a wildcard scope by its own literal
part, and yet must find an exact one by a literal part equal to it (`Expansion.probed_iff`).
-/

namespace DelegatedScopes.Expansion

open Scope

/-- The expansion that scopes make when they are added one after the other. -/
def ofScopes (ss : List Scope) : Expansion := ss.foldl add empty

theorem ofScopes_append_singleton (ss : List Scope) (s : Scope) :
    ofScopes (ss ++ [s]) = (ofScopes ss).add s := by
  simp [ofScopes]

theorem valid_ofScopes (ss : List Scope) : (ofScopes ss).Valid := valid_empty.foldl_add ss

/-- **The scopes added arrive in the order in which each was added first.** -/
theorem scopes_ofScopes (ss : List Scope) : (ofScopes ss).scopes = ss.eraseDups := by
  induction ss using List.reverseRecOn with
  | nil => rfl
  | append_singleton ss s ih =>
      rw [ofScopes_append_singleton, (valid_ofScopes ss).scopes_add, ih, List.eraseDups_append]
      by_cases hs : s ∈ ss
      · have hnew : [s].removeAll ss = [] := by simp [List.removeAll, hs]
        rw [if_pos (List.mem_eraseDups.2 hs), hnew, List.eraseDups_nil, List.append_nil]
      · have hnew : [s].removeAll ss = [s] := by simp [List.removeAll, hs]
        rw [if_neg (mt List.mem_eraseDups.1 hs), hnew]
        rfl

/-- **The cover test is exact.**  Whatever scopes were added, the test holds of a scope, added or
not, exactly when another scope met implies it; the scopes met are those added; and they stand in
the queue in the order in which each was added first, each of them once. -/
theorem covers_exact (ss : List Scope) :
    (∀ s, (ofScopes ss).covers s = true ↔
      ∃ t ∈ (ofScopes ss).seen, t ≠ s ∧ implies t s = true) ∧
    (∀ s, s ∈ (ofScopes ss).seen ↔ s ∈ ss) ∧
    (ofScopes ss).arrivals.toList = ss.eraseDups ∧
    ∀ s, (ofScopes ss).arrivals.toList.count s = if s ∈ ss then 1 else 0 := by
  have hvalid := valid_ofScopes ss
  have hmet : ∀ s, s ∈ (ofScopes ss).scopes ↔ s ∈ ss := fun s => by
    rw [scopes_ofScopes, List.mem_eraseDups]
  refine ⟨fun s => ?_, fun s => (hvalid.seen s).trans (hmet s), scopes_ofScopes ss, fun s => ?_⟩
  · simp only [hvalid.covers_iff, hvalid.seen]
  · have hcount : (ofScopes ss).arrivals.toList.count s =
        if s ∈ (ofScopes ss).scopes then 1 else 0 := hvalid.nodup.count
    simpa only [hmet] using hcount

/-- With `a*` and `a**` met, `a*` covers `a**`, and nothing covers `a*`. -/
example : (ofScopes ["a**".toList, "a*".toList, "a**".toList]).covers "a**".toList = true ∧
    (ofScopes ["a**".toList, "a*".toList, "a**".toList]).covers "a*".toList = false := by
  decide +kernel

end DelegatedScopes.Expansion
