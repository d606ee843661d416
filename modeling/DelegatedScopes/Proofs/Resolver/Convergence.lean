import DelegatedScopes.Proofs.Resolver.Closure
import Mathlib.Data.Set.Finite.Basic
import DelegatedScopes.Proofs.Role.Trail

/-!
# Resolver — validated roles converge

* `Role.Closure.exists_trail`: every scope of a closure comes about on a trail from the scopes held
  and what the templates without a placeholder grant.
* `Role.stepBound`: an explicit bound, from the roles and the number of scopes held.
* `Resolver.resolve_of_stepBound`, `Resolver.resolve_converges`: for validated roles every closure
  is finite, and a resolver whose limit is at least the bound always answers.

A trail of validated roles meets each carrier at most twice, and in each step it takes one of
finitely many templates.  So the number of scopes is bounded however long the scopes held are.
-/

namespace DelegatedScopes

open Scope

namespace Role

variable {roles : List Role} {scopes seeds : List Scope}

/-! ### Counting what can be reached -/

/-- The templates of the roles that count, each with its role. -/
def rules (roles : List Role) : List (Role × Template) :=
  (effective roles).flatMap fun r => r.templates.map fun t => (r, t)

/-- The rules are the templates of the definitions that count. -/
theorem mem_rules {r : Role} {t : Template} :
    (r, t) ∈ rules roles ↔ r ∈ effective roles ∧ t ∈ r.templates := by
  simp only [rules, List.mem_flatMap, List.mem_map, Prod.mk.injEq]
  constructor
  · rintro ⟨q, hq, u, hu, rfl, rfl⟩
    exact ⟨hq, hu⟩
  · rintro ⟨hr, ht⟩
    exact ⟨r, hr, t, ht, rfl, rfl⟩

/-- What is granted to the holder of a scope. -/
def granted (roles : List Role) (s : Scope) : List Scope :=
  (rules roles).filterMap fun p => (activate p.1.id s).map p.2.render

/-- What a scope grants in one step is listed. -/
theorem mem_granted {s g : Scope} : g ∈ granted roles s ↔ Grants roles s g := by
  simp only [granted, List.mem_filterMap, Prod.exists, mem_rules, Option.map_eq_some_iff, Grants]
  constructor
  · rintro ⟨r, t, ⟨hr, ht⟩, m, hm, rfl⟩
    exact ⟨r, hr, m, hm, t, ht, rfl⟩
  · rintro ⟨r, hr, m, hm, t, ht, rfl⟩
    exact ⟨r, t, ⟨hr, ht⟩, m, hm, rfl⟩

/-- The scopes that some seeds lead to in a number of steps or fewer. -/
def reach (roles : List Role) (seeds : List Scope) : Nat → List Scope
  | 0 => seeds
  | n + 1 => reach roles seeds n ++ (reach roles seeds n).flatMap (granted roles)

/-- A scope grants no more scopes in one step than there are rules. -/
theorem length_flatMap_granted_le (l : List Scope) :
    (l.flatMap (granted roles)).length ≤ l.length * (rules roles).length := by
  induction l with
  | nil => simp
  | cons s l ih =>
      have hs : (granted roles s).length ≤ (rules roles).length := List.length_filterMap_le _ _
      rw [List.flatMap_cons, List.length_append, List.length_cons, Nat.succ_mul, Nat.add_comm]
      exact Nat.add_le_add ih hs

theorem length_reach_le (n : Nat) :
    (reach roles seeds n).length ≤ seeds.length * Nat.pow ((rules roles).length + 1) n := by
  induction n with
  | zero => exact Nat.le_of_eq (Nat.mul_one _).symm
  | succ n ih =>
      have hpow : Nat.pow ((rules roles).length + 1) (n + 1) =
          Nat.pow ((rules roles).length + 1) n * ((rules roles).length + 1) := rfl
      rw [reach, List.length_append, hpow, ← Nat.mul_assoc]
      calc (reach roles seeds n).length + ((reach roles seeds n).flatMap (granted roles)).length
          ≤ (reach roles seeds n).length + (reach roles seeds n).length * (rules roles).length :=
            Nat.add_le_add_left (length_flatMap_granted_le _) _
        _ = (reach roles seeds n).length * ((rules roles).length + 1) := by
            rw [Nat.mul_succ, Nat.add_comm]
        _ ≤ _ := Nat.mul_le_mul_right _ ih

theorem reach_subset {n k : Nat} (h : n ≤ k) : reach roles seeds n ⊆ reach roles seeds k := by
  induction h with
  | refl => exact fun s hs => hs
  | step _ ih => exact fun s hs => List.mem_append_left _ (ih hs)

/-- The end of a trail is reached in as many steps as it has. -/
theorem Trail.mem_reach {path : List (Role × Activation)} {s : Scope}
    (h : Trail roles seeds path s) : s ∈ reach roles seeds path.length := by
  induction h with
  | seed h => exact h
  | @hand path s r m t h hr hm ht hp ih =>
      refine List.mem_append_right _ (List.mem_flatMap.2 ⟨s, ih, mem_granted.2 ?_⟩)
      exact ⟨r, (mem_carrierRoles.1 hr).1, m, hm, t, ht, rfl⟩

/-! ### The closure of validated roles -/

/-- The scopes held, and what the templates without a placeholder grant. -/
def sources (roles : List Role) (scopes : List Scope) : List Scope :=
  scopes ++ (rules roles).map fun p => p.2.lead

/-- **Every scope of a closure comes about on a trail.** -/
theorem Closure.exists_trail (hvalid : ∀ r ∈ effective roles, r.validate = .ok ()) {s : Scope}
    (h : Closure roles scopes s) : ∃ path, Trail roles (sources roles scopes) path s := by
  induction h with
  | held h => exact ⟨[], .seed (List.mem_append_left _ h)⟩
  | @granted s g h hg ih =>
      obtain ⟨path, hpath⟩ := ih
      obtain ⟨r, hr, m, hm, t, ht, rfl⟩ := hg
      cases hp : t.hasPlaceholder with
      | false =>
          rw [Template.render_of_not_hasPlaceholder hp]
          refine ⟨[], .seed (List.mem_append_right _ (List.mem_map.2 ⟨(r, t), ?_, rfl⟩))⟩
          exact mem_rules.2 ⟨hr, ht⟩
      | true =>
          have hcarrier : r.IsCarrier :=
            ⟨isParameterized_of_validate (hvalid r hr) ht hp, t, ht, hp⟩
          exact ⟨(r, m) :: path, .hand hpath (mem_carrierRoles.2 ⟨hr, hcarrier⟩) hm ht hp⟩

/-- How many scopes a set of so many scopes can lead to. -/
def stepBound (roles : List Role) (count : Nat) : Nat :=
  (count + (rules roles).length) *
    Nat.pow ((rules roles).length + 1) (2 * (carrierRoles roles).length)

/-- The scopes that a scope set leads to under validated roles. -/
def reachable (roles : List Role) (scopes : List Scope) : List Scope :=
  reach roles (sources roles scopes) (2 * (carrierRoles roles).length)

/-- No more is reached than the bound on the steps. -/
theorem length_reachable_le (roles : List Role) (scopes : List Scope) :
    (reachable roles scopes).length ≤ stepBound roles scopes.length := by
  refine (length_reach_le _).trans ?_
  simp [sources, stepBound]

/-- **The closure of validated roles is finite.** -/
theorem Closure.mem_reachable (h : validateRoles roles = .ok ()) {s : Scope}
    (hs : Closure roles scopes s) : s ∈ reachable roles scopes := by
  obtain ⟨hvalid, hcheck⟩ := validateRoles_iff_check.1 h
  obtain ⟨path, hpath⟩ := hs.exists_trail hvalid
  exact reach_subset (hpath.length_le (check_carrierGraph.1 hcheck)) hpath.mem_reach

end Role

namespace Resolver

open Role (Closure stepBound)

/-- **Enough steps always give an answer.** -/
theorem resolve_of_stepBound {roles : List Role} (h : validateRoles roles = .ok ())
    {scopes : List Scope} {maxSteps : Nat} (hmax : stepBound roles scopes.length ≤ maxSteps) :
    ∃ out, (compile roles maxSteps).resolve scopes = .ok out := by
  rcases resolve_outcome (r := compile roles maxSteps) keeps_progress progress_start with
    ⟨-, hres⟩ | ⟨-, hout⟩
  · exact ⟨_, hres⟩
  · generalize hres : (compile roles maxSteps).resolve scopes = result at hout
    cases hout with
    | exceeded hp hsize =>
        -- the scopes that arrived are distinct and in the closure, so they fit into the bound
        have hlen := hp.valid.nodup.length_le_of_subset fun s hs => (hp.origin s hs).mem_reachable h
        exact absurd ((hlen.trans (Role.length_reachable_le roles scopes)).trans hmax)
          (Nat.not_le.2 hsize)
    | star => exact ⟨_, rfl⟩
    | finished => exact ⟨_, rfl⟩

/-- **Validated roles converge.**  Whatever the scopes held, the closure is finite, and a resolver
built from the roles answers as soon as its limit is the bound or more.  The bound depends on the
roles and on the number of scopes held. -/
theorem resolve_converges {roles : List Role} (h : validateRoles roles = .ok ())
    (scopes : List Scope) :
    {s | Closure roles scopes s}.Finite ∧
      ∀ maxSteps, stepBound roles scopes.length ≤ maxSteps →
        ∃ r out, build roles maxSteps = .ok r ∧ r.resolve scopes = .ok out := by
  refine ⟨?_, fun maxSteps hmax => ?_⟩
  · exact (Role.reachable roles scopes).finite_toSet.subset fun s hs => hs.mem_reachable h
  · obtain ⟨out, hout⟩ := resolve_of_stepBound h hmax
    exact ⟨compile roles maxSteps, out, by rw [build, h], hout⟩

theorem validateRoles_desk : validateRoles deskRoles = .ok () := by
  have heff : Role.effective deskRoles = deskRoles := by decide +kernel
  refine validateRoles_iff_check.2 ⟨?_, by decide +kernel⟩
  simp only [heff, Role.validate_eq_ok_iff]
  decide

theorem resolve_converges_desk :
    validateRoles deskRoles = .ok () ∧
      {s | Closure deskRoles ["assume:desk7".toList] s}.Finite ∧
      ∃ r out, build deskRoles 64 = .ok r ∧ r.resolve ["assume:desk7".toList] = .ok out := by
  have hbound : stepBound deskRoles 1 ≤ 64 := by decide +kernel
  have h := resolve_converges validateRoles_desk ["assume:desk7".toList]
  exact ⟨validateRoles_desk, h.1, h.2 64 hbound⟩

end Resolver

end DelegatedScopes
