import DelegatedScopes.Proofs.Resolver.Closure
import Mathlib.Logic.Relation

/-!
# Resolver — what an answer is worth

* `Role.closure_iff_chain`: the closure of a scope set is what chains of grants lead to from it.
* `Resolver.resolve_derived_closed`: every scope of an answer comes about on such a chain, and the
  answer implies the scopes held and whatever is granted to the holder of one of its scopes.
* `Resolver.Saturated.resolve_normalize`: the normal form of a saturated set resolves to itself.
* `Resolver.resolve_idempotent`: an answer resolves to itself within the steps it was found in.

Nothing is assumed of the roles: they may be refused by validation, and other scope sets may have
no answer at all.  A run that starts from the maximal scopes of a saturated set stays in the set.
A scope of the set that is not maximal is passed over whenever its turn comes, because the maximal
scope that implies it was there from the start; and a maximal scope grants only scopes of the set.
So the run takes no more scopes than the set has, and in the end the maximal scopes are still the
same.
-/

namespace DelegatedScopes

open Scope

namespace Role

/-- **The closure is what chains of grants lead to.** -/
theorem closure_iff_chain {roles : List Role} {scopes : List Scope} {s : Scope} :
    Closure roles scopes s ↔ ∃ s₀ ∈ scopes, Relation.ReflTransGen (Grants roles) s₀ s := by
  constructor
  · intro h
    induction h with
    | held h => exact ⟨_, h, .refl⟩
    | granted _ hg ih =>
        obtain ⟨s₀, hs₀, hchain⟩ := ih
        exact ⟨s₀, hs₀, hchain.tail hg⟩
  · rintro ⟨s₀, hs₀, hchain⟩
    induction hchain with
    | refl => exact .held hs₀
    | tail _ hg ih => exact .granted ih hg

end Role

namespace Resolver

open Role (Closure Grants)

variable {roles : List Role} {scopes : List Scope} {maxSteps : Nat}

/-! ### Nothing invented, nothing left unexpanded -/

/-- **No privilege is invented and none is left unexpanded.**  Whatever the roles, every scope of
an answer comes about on a chain of grants from a scope held.  The answer implies every scope held,
and whatever a template of a role that counts grants to the holder of one of its scopes.  It is
strictly increasing, and none of its scopes implies another. -/
theorem resolve_derived_closed {roles : List Role} {maxSteps : Nat} {scopes out : List Scope}
    (h : (compile roles maxSteps).resolve scopes = .ok out) :
    (∀ s ∈ out, ∃ s₀ ∈ scopes, Relation.ReflTransGen (Grants roles) s₀ s) ∧
      (∀ s ∈ scopes, ∃ u ∈ out, implies u s = true) ∧
      (∀ s ∈ out, ∀ r ∈ Role.effective roles, ∀ m, activate r.id s = some m →
        ∀ t ∈ r.templates, ∃ u ∈ out, implies u (t.render m) = true) ∧
      (out.Pairwise fun a b => order a b = .lt) ∧
      ∀ a ∈ out, ∀ b ∈ out, implies a b = true → a = b := by
  have ha := answer_of_resolve h
  refine ⟨fun s hs => Role.closure_iff_chain.1 (ha.origin s hs), ha.held,
    fun s hs r hr m hm t ht => ?_, ha.increasing, ha.antichain⟩
  exact ha.grants s hs (t.render m) ⟨r, hr, m, hm, t, ht, rfl⟩

/-- The hall has a desk and the lift, the lift has every desk, and a desk has a drawer that is
itself a desk, so that a single desk leads to drawers without end. -/
def hallRoles : List Role :=
  [.plain "hall".toList ["assume:desk7".toList, "assume:lift".toList] ⟨0, 0⟩,
   .plain "lift".toList ["assume:desk*".toList] ⟨0, 0⟩,
   .plain "desk*".toList ["assume:desk<..>/drawer".toList] ⟨0, 0⟩]

/-- The one desk is expanded before the lift is taken; every desk then covers its drawers. -/
theorem resolve_hall :
    (compile hallRoles 5).resolve ["assume:hall".toList] =
      .ok ["assume:desk*".toList, "assume:hall".toList, "assume:lift".toList] := by
  cbv

theorem resolve_derived_closed_hall :
    (compile hallRoles 5).resolve ["assume:hall".toList] =
        .ok ["assume:desk*".toList, "assume:hall".toList, "assume:lift".toList] ∧
      Relation.ReflTransGen (Grants hallRoles) "assume:hall".toList "assume:desk*".toList ∧
      ∀ r ∈ Role.effective hallRoles, ∀ m, activate r.id "assume:desk*".toList = some m →
        ∀ t ∈ r.templates,
          ∃ u ∈ ["assume:desk*".toList, "assume:hall".toList, "assume:lift".toList],
            implies u (t.render m) = true := by
  obtain ⟨hchain, -, hgrants, -⟩ := resolve_derived_closed resolve_hall
  obtain ⟨s₀, hs₀, h⟩ := hchain "assume:desk*".toList List.mem_cons_self
  exact ⟨resolve_hall, List.mem_singleton.1 hs₀ ▸ h,
    hgrants "assume:desk*".toList List.mem_cons_self⟩

/-! ### Answers resolve to themselves -/

/-- While every maximal scope of a saturated set has arrived and no other scopes have, only a
maximal one is not passed over. -/
theorem maximal_of_not_covers {set : List Scope} {e : Expansion} (hv : e.Valid)
    (hmax : normalize set ⊆ e.scopes) (hsub : e.scopes ⊆ set) {n : Nat} {s : Scope}
    (hs : e.scopes[n]? = some s) (hc : e.covers s = false) : Maximal set s := by
  obtain ⟨t, ht, hts⟩ := covers_normalize set s (hsub (List.mem_of_getElem? hs))
  by_cases hne : t = s
  · exact mem_normalize.1 (hne ▸ ht)
  · rw [hv.covers_iff.2 ⟨t, hmax ht, hne, hts⟩] at hc
    cases hc

/-- A run from the maximal scopes of a saturated set stays in the set. -/
theorem keeps_saturated (maxSteps : Nat) {set : List Scope} (hset : Saturated roles scopes set) :
    (compile roles maxSteps).Keeps fun e _ =>
      e.Valid ∧ normalize set ⊆ e.scopes ∧ e.scopes ⊆ set where
  skip h _ _ := h
  grant {e n s} := by
    rintro ⟨hv, hmax, hsub⟩ hs hc -
    refine ⟨hv.foldl_add _, fun t ht => hv.mem_foldl_add.2 (Or.inl (hmax ht)), fun t ht => ?_⟩
    rcases hv.mem_foldl_add.1 ht with ht | ht
    · exact hsub ht
    · exact hset.grants_mem (maximal_of_not_covers hv hmax hsub hs hc) (mem_grants.1 ht)

/-- **The normal form of a saturated set resolves to itself**, in no more steps than the set has
scopes. -/
theorem Saturated.resolve_normalize {set : List Scope} (hset : Saturated roles scopes set)
    (hlen : set.length ≤ maxSteps) :
    (compile roles maxSteps).resolve (normalize set) = .ok (normalize set) := by
  have hstart : Scope.star ∉ normalize set → (start (normalize set)).Valid ∧
      normalize set ⊆ (start (normalize set)).scopes ∧ (start (normalize set)).scopes ⊆ set := by
    refine fun _ => ⟨valid_start _, fun s hs => ?_, fun s hs => ?_⟩
    · rwa [mem_start, normalize_normalize]
    · rw [mem_start, normalize_normalize] at hs
      exact normalize_subset set hs
  rcases resolve_outcome (keeps_saturated maxSteps hset) hstart with ⟨hs, -⟩ | ⟨-, hout⟩
  · exact absurd (normalize_subset set hs) hset.no_star
  · generalize (compile roles maxSteps).resolve (normalize set) = result at hout
    cases hout with
    | exceeded hp hsize =>
        obtain ⟨hv, -, hsub⟩ := hp
        have hfit := Nat.le_trans (hv.nodup.length_le_of_subset hsub) hlen
        exact absurd hsize (Nat.not_lt.2 hfit)
    | star hp hs hc hg =>
        obtain ⟨hv, hmax, hsub⟩ := hp
        have hmem := hset.grants_mem (maximal_of_not_covers hv hmax hsub hs hc) (mem_grants.1 hg)
        exact absurd hmem hset.no_star
    | finished hp =>
        rw [normalize_of_between hp.2.1 hp.2.2]

/-- An answer resolves to itself also under a higher limit. -/
theorem resolve_answer {out : List Scope} (h : (compile roles maxSteps).resolve scopes = .ok out)
    {maxSteps' : Nat} (hle : maxSteps ≤ maxSteps') :
    (compile roles maxSteps').resolve out = .ok out := by
  rcases resolve_ok h with ⟨rfl, -⟩ | ⟨set, hset, hlen, rfl⟩
  · exact resolve_of_star List.mem_cons_self
  · exact hset.resolve_normalize (Nat.le_trans hlen hle)

/-- **Expansion is idempotent under the same limit.**  Whatever the roles, an answer resolves to
itself; in particular the second run does not exceed the limit that the first one kept. -/
theorem resolve_idempotent {roles : List Role} {maxSteps : Nat} {scopes out : List Scope}
    (h : (compile roles maxSteps).resolve scopes = .ok out) :
    (compile roles maxSteps).resolve out = .ok out :=
  resolve_answer h (Nat.le_refl maxSteps)

theorem resolve_idempotent_hall :
    (compile hallRoles 5).resolve ["assume:hall".toList] =
        .ok ["assume:desk*".toList, "assume:hall".toList, "assume:lift".toList] ∧
      (compile hallRoles 5).resolve
          ["assume:desk*".toList, "assume:hall".toList, "assume:lift".toList] =
        .ok ["assume:desk*".toList, "assume:hall".toList, "assume:lift".toList] :=
  ⟨resolve_hall, resolve_idempotent resolve_hall⟩

end Resolver

end DelegatedScopes
