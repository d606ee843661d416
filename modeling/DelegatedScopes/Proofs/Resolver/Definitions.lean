import DelegatedScopes.Proofs.Resolver.Lookup
import DelegatedScopes.Proofs.Store.Keyed

/-!
# Resolver — the definitions that decide

Of a list of roles, only the last definition of each id decides anything: whether the list is
valid, the cycle that is found in it, and everything about the resolver that is compiled from it.
So the list may be given in any order and with any definitions that are overwritten later.

* `Role.effective_congr`: lists with the same last definitions have the same effective roles.
* `Role.effective_of_perm`: so has a listing of the effective roles, in whatever order it comes.
* `Resolver.role?_compile`: a compiled resolver knows the last definition of each id.
* `Resolver.resolve_withGeneration`: nor does the number of a resolver decide anything.
-/

namespace DelegatedScopes

namespace Role

/-- **Only the last definitions count**, and not the order in which ids were defined. -/
theorem effective_congr {roles others : List Role}
    (h : ∀ id, latest? roles id = latest? others id) : effective roles = effective others := by
  have hmem : ∀ r, r ∈ effective roles ↔ r ∈ effective others := fun r => by
    rw [mem_effective, mem_effective, h]
  have hperm : (effective roles).Perm (effective others) :=
    (List.perm_ext_iff_of_nodup (nodup_effective roles) (nodup_effective others)).2 hmem
  refine hperm.eq_of_pairwise (fun q r _ _ hqr hrq => ?_) (pairwise_effective roles)
    (pairwise_effective others)
  exact absurd hrq (Std.OrientedCmp.not_lt_of_lt hqr)

theorem getElem?_byKey_eq_latest? (roles : List Role) (id : Text) :
    (byKey Role.id roles)[id]? = latest? roles id :=
  getElem?_byKey roles id

/-- **Listing the definitions that count, in any order, leaves them as they are.** -/
theorem effective_of_perm {roles listed : List Role} (h : listed.Perm (effective roles)) :
    effective listed = effective roles := by
  refine effective_congr fun id => ?_
  rw [← getElem?_byKey_eq_latest?, ← getElem?_byKey_eq_latest?]
  exact (keyed_byKey roles).getElem?_byKey_of_perm h id

theorem find?_effective (roles : List Role) (id : Text) :
    ((effective roles).find? fun r => r.id = id) = latest? roles id := by
  have hiff : ∀ r, ((effective roles).find? fun r => r.id = id) = some r →
      latest? roles id = some r := by
    intro r hr
    have hid : r.id = id := by simpa using List.find?_some hr
    exact hid ▸ mem_effective.1 (List.mem_of_find?_eq_some hr)
  cases hr : (effective roles).find? fun r => r.id = id with
  | some r => rw [hiff r hr]
  | none =>
      cases hq : latest? roles id with
      | none => rfl
      | some q =>
          have hid := id_of_latest? hq
          have hmem : q ∈ effective roles := mem_effective.2 (hid.symm ▸ hq)
          have := List.find?_eq_none.1 hr q hmem
          simp [hid] at this

end Role

/-- The definitions that count decide whether a list of roles is valid. -/
theorem validateRoles_congr {roles others : List Role}
    (h : Role.effective roles = Role.effective others) :
    validateRoles roles = validateRoles others := by
  rw [validateRoles, validateRoles, RoleGraph.ofRoles, RoleGraph.ofRoles, h]

namespace Resolver

/-- The definitions that count decide the resolver. -/
theorem compile_congr {roles others : List Role}
    (h : Role.effective roles = Role.effective others) (maxSteps : Nat) :
    compile roles maxSteps = compile others maxSteps := by
  rw [compile, compile, h]

/-- The definitions that count decide whether a resolver is built, and which. -/
theorem build_congr {roles others : List Role}
    (h : Role.effective roles = Role.effective others) (maxSteps : Nat) :
    build roles maxSteps = build others maxSteps := by
  rw [build, build, validateRoles_congr h, compile_congr h]

theorem ids_compile (roles : List Role) (maxSteps : Nat) :
    (compile roles maxSteps).ids = (Role.effective roles).map Role.id := by
  simp [compile, ids]

/-- **A compiled resolver knows the last definition of each id.** -/
theorem role?_compile (roles : List Role) (maxSteps : Nat) (id : Text) :
    (compile roles maxSteps).role? id = Role.latest? roles id := by
  rw [← Role.find?_effective, role?, compile]
  simp [List.find?_map, Function.comp_def]

/-! ### The number of a resolver -/

/-- The number of a resolver plays no part in its answers. -/
theorem expand_withGeneration (r : Resolver) (generation : Nat) (e : Expansion) (taken left : Nat) :
    (r.withGeneration generation).expand e taken left = r.expand e taken left := by
  induction left generalizing e taken with
  | zero => rfl
  | succ left ih => simp only [expand, ih]; rfl

/-- A scope is resolved alike by the same resolver under any number. -/
theorem resolve_withGeneration (r : Resolver) (generation : Nat) (scopes : List Scope) :
    (r.withGeneration generation).resolve scopes = r.resolve scopes := by
  rw [resolve, resolve, expand_withGeneration]
  rfl

end Resolver

end DelegatedScopes
