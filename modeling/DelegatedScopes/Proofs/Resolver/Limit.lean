import DelegatedScopes.Proofs.Resolver.Run
import Mathlib.Data.ENat.Basic

/-!
# Resolver — the limit of steps

* `Resolver.expand_of_le`: an answer stays the same when more steps are allowed.
* `Resolver.answer_unique`: there is one answer under all limits.
* `Resolver.resolve_threshold`: from a certain limit on it is given, and below that limit it is not.

A run looks at its limit only when a scope is still to be taken and no step is left.  So two runs
under different limits take the same scopes, pass over the same ones and are granted the same, until
one of them stops there; where it stops, whether what it would have been granted next is `*` or
nothing new, does not matter.
-/

namespace DelegatedScopes

namespace Resolver

variable {roles : List Role} {scopes out : List Scope}

/-- The limit of a resolver plays no part in what a scope grants. -/
theorem grants_compile (roles : List Role) (limit limit' : Nat) (s : Scope) :
    (compile roles limit).grants s = (compile roles limit').grants s := rfl

/-- **An expansion that ends with an answer ends with the same answer when it may go on longer**,
whatever limit it would report. -/
theorem expand_of_le {limit limit' left left' : Nat} (hle : left ≤ left') {e : Expansion}
    {taken : Nat} (h : (compile roles limit).expand e taken left = .ok out) :
    (compile roles limit').expand e taken left' = .ok out := by
  induction left generalizing left' e taken with
  | zero =>
      -- no step was left, so every scope had been taken
      rw [expand] at h
      split at h
      · cases h
      · rename_i hall
        cases left' with
        | zero => rwa [expand, if_neg hall]
        | succ left' => rwa [expand, Array.getElem?_eq_none (Nat.not_lt.1 hall)]
  | succ left ih =>
      obtain ⟨left', rfl⟩ := Nat.exists_eq_add_one_of_ne_zero (Nat.ne_zero_of_lt hle)
      have hle' : left ≤ left' := Nat.le_of_succ_le_succ hle
      -- both runs take the same scope and do the same with it
      rw [expand] at h ⊢
      split at h
      · exact h
      · split at h
        · rename_i hc
          rw [if_pos hc]
          exact ih hle' h
        · rename_i hc
          rw [if_neg hc, grants_compile roles limit' limit]
          dsimp only at h ⊢
          split at h
          · rename_i hg
            rwa [if_pos hg]
          · rename_i hg
            rw [if_neg hg]
            exact ih hle' h

/-- **More steps allowed, the answer stays the same.** -/
theorem resolve_of_le {limit limit' : Nat} (hle : limit ≤ limit')
    (h : (compile roles limit).resolve scopes = .ok out) :
    (compile roles limit').resolve scopes = .ok out := by
  by_cases hstar : Scope.star ∈ scopes
  · rwa [resolve_of_star hstar] at h ⊢
  · rw [resolve_of_not_star hstar] at h ⊢
    exact expand_of_le hle h

/-- **There is one answer under all limits.** -/
theorem answer_unique {limit limit' : Nat} {out' : List Scope}
    (h : (compile roles limit).resolve scopes = .ok out)
    (h' : (compile roles limit').resolve scopes = .ok out') : out = out' := by
  have hmax := resolve_of_le (Nat.le_max_left limit limit') h
  rw [resolve_of_le (Nat.le_max_right limit limit') h'] at hmax
  exact (Except.ok.inj hmax).symm

/-- A run starts with nothing to take when nothing is held. -/
theorem scopes_start_eq_nil_iff : (start scopes).scopes = [] ↔ scopes = [] := by
  simp only [List.eq_nil_iff_forall_not_mem, mem_start]
  constructor
  · intro h s hs
    obtain ⟨t, ht, -⟩ := Scope.covers_normalize scopes s hs
    exact h t ht
  · exact fun h s hs => h s (Scope.normalize_subset scopes hs)

/-- With no step allowed there is an answer when nothing has to be taken: `*` is held, or nothing
is. -/
theorem resolve_zero_iff (roles : List Role) (scopes : List Scope) :
    (∃ out, (compile roles 0).resolve scopes = .ok out) ↔ Scope.star ∈ scopes ∨ scopes = [] := by
  by_cases hstar : Scope.star ∈ scopes
  · simp only [resolve_of_star hstar, hstar, Except.ok.injEq, exists_eq', true_or]
  · have hres : (compile roles 0).resolve scopes =
        if 0 < (start scopes).scopes.length then .error (.stepLimit 0)
        else .ok (Scope.normalize (start scopes).scopes) :=
      resolve_of_not_star hstar
    rw [hres, ← scopes_start_eq_nil_iff, ← List.length_eq_zero_iff]
    split
    · rename_i hpos
      simp only [reduceCtorEq, exists_false, hstar, false_or, false_iff]
      exact Nat.ne_of_gt hpos
    · rename_i hpos
      simp only [Except.ok.injEq, exists_eq', hstar, false_or, true_iff]
      exact Nat.eq_zero_of_not_pos hpos

/-- A property of numbers that larger numbers keep holds from some number on, or nowhere. -/
theorem exists_threshold {p : Nat → Prop} (h : ∀ {m n}, m ≤ n → p m → p n) :
    ∃ threshold : ENat, ∀ n : Nat, threshold ≤ n ↔ p n := by
  classical
  by_cases hp : ∃ n, p n
  · refine ⟨Nat.find hp, fun n => ?_⟩
    rw [Nat.cast_le]
    exact ⟨fun hle => h hle (Nat.find_spec hp), fun hn => Nat.find_min' hp hn⟩
  · refine ⟨⊤, fun n => ?_⟩
    simp only [top_le_iff, ENat.natCast_ne_top, false_iff]
    exact fun hn => hp ⟨n, hn⟩

/-- **The limit decides whether there is an answer, never which one.**  For any roles and any scopes
held there is a threshold, perhaps infinite.  Every limit from the threshold on gives one and the
same answer, and every limit below it is exceeded and reported.  The threshold is zero just when
`*` is held or nothing is. -/
theorem resolve_threshold (roles : List Role) (scopes : List Scope) :
    ∃ (threshold : ENat) (out : List Scope),
      (∀ limit : Nat, threshold ≤ limit → (compile roles limit).resolve scopes = .ok out) ∧
      (∀ limit : Nat, limit < threshold →
        (compile roles limit).resolve scopes = .error (.stepLimit limit)) ∧
      (threshold = 0 ↔ Scope.star ∈ scopes ∨ scopes = []) := by
  have hmono : ∀ {limit limit' : Nat}, limit ≤ limit' →
      (∃ out, (compile roles limit).resolve scopes = .ok out) →
      ∃ out, (compile roles limit').resolve scopes = .ok out :=
    fun hle ⟨out, h⟩ => ⟨out, resolve_of_le hle h⟩
  obtain ⟨threshold, hthreshold⟩ := exists_threshold hmono
  have hbelow : ∀ limit : Nat, limit < threshold →
      (compile roles limit).resolve scopes = .error (.stepLimit limit) := by
    intro limit hlt
    cases h : (compile roles limit).resolve scopes with
    | ok out => exact absurd ((hthreshold limit).2 ⟨out, h⟩) (not_le_of_gt hlt)
    | error e => rw [resolve_error h]; rfl
  have hzero : threshold = 0 ↔ Scope.star ∈ scopes ∨ scopes = [] := by
    rw [← resolve_zero_iff roles, ← hthreshold 0, Nat.cast_zero, nonpos_iff_eq_zero]
  by_cases hfinite : ∃ limit : Nat, threshold ≤ limit
  · obtain ⟨limit, hle⟩ := hfinite
    obtain ⟨out, hout⟩ := (hthreshold limit).1 hle
    refine ⟨threshold, out, fun limit' hle' => ?_, hbelow, hzero⟩
    obtain ⟨out', hout'⟩ := (hthreshold limit').1 hle'
    rw [answer_unique hout hout']
    exact hout'
  · -- no limit is enough, so there is no answer to name
    exact ⟨threshold, [], fun limit hle => absurd ⟨limit, hle⟩ hfinite, hbelow, hzero⟩

end Resolver

end DelegatedScopes
