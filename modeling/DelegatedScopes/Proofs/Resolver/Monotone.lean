import DelegatedScopes.Proofs.Resolver.Answer
import DelegatedScopes.Proofs.Resolver.Convergence

/-!
# Resolver — when holding more grants no less

* `Resolver.covered_of_grants`: whatever a scope held alone is granted, its answer implies.
* `Resolver.resolve_mono_iff`: for validated roles resolution is monotone just when no answer
  stops at a bare template, that is, when an answer that implies the scope which activates the role
  of a bare template exactly also implies what the template then grants.
* `Resolver.resolve_not_mono`: validated roles for which it is not.

Monotonicity can only fail at bare templates, because everywhere else a broader scope is granted
more.  At a bare template the broader scope's answer passes over the narrower scope, whose grant
`q*` is then missing: `q**` does not imply it.
-/

namespace DelegatedScopes.Resolver

open Scope
open Role (BareGrant Closure Grants stepBound)

variable {roles : List Role} {scopes : List Scope} {maxSteps : Nat}

/-! ### One scope held -/

theorem normalize_singleton (s : Scope) : normalize [s] = [s] := by
  refine (eq_normalize (List.pairwise_singleton _ s) fun t => ?_).symm
  rw [List.mem_singleton]
  refine ⟨?_, fun h => List.mem_singleton.1 h.1⟩
  rintro rfl
  exact ⟨List.mem_singleton_self t, fun u hu hne => absurd (List.mem_singleton.1 hu) hne⟩

/-- The first scope taken is passed over by none, so all that it grants arrives. -/
theorem keeps_first (roles : List Role) (maxSteps : Nat) (s : Scope) :
    (compile roles maxSteps).Keeps fun e n =>
      e.Valid ∧ (n = 0 → e.scopes = [s]) ∧ (0 < n → ∀ g, Grants roles s g → g ∈ e.scopes) where
  skip {e n t} := by
    rintro ⟨hv, hfirst, hgrants⟩ ht hc
    refine ⟨hv, nofun, fun _ => ?_⟩
    rcases Nat.eq_zero_or_pos n with rfl | hn
    · obtain ⟨u, hu, hne, -⟩ := hv.covers_iff.1 hc
      rw [hfirst rfl] at hu ht
      cases ht
      exact absurd (List.mem_singleton.1 hu) hne
    · exact hgrants hn
  grant {e n t} := by
    rintro ⟨hv, hfirst, hgrants⟩ ht hc -
    refine ⟨hv.foldl_add _, nofun, fun _ g hg => hv.mem_foldl_add.2 ?_⟩
    rcases Nat.eq_zero_or_pos n with rfl | hn
    · rw [hfirst rfl] at ht
      cases ht
      exact Or.inr (mem_grants.2 hg)
    · exact Or.inl (hgrants hn g hg)

/-- **Whatever a scope held alone is granted, its answer implies.** -/
theorem covered_of_grants {s g : Scope} {out : List Scope}
    (h : (compile roles maxSteps).resolve [s] = .ok out) (hg : Grants roles s g) :
    ∃ u ∈ out, implies u g = true := by
  have hscopes : (start [s]).scopes = [s] := by
    rw [start, normalize_singleton]
    exact Expansion.valid_empty.scopes_add s
  rcases resolve_outcome (keeps_first roles maxSteps s) fun _ =>
    ⟨valid_start [s], fun _ => hscopes, fun h => absurd h (Nat.lt_irrefl 0)⟩ with
    ⟨-, hres⟩ | ⟨-, hout⟩
  · rw [hres] at h
    cases h
    exact ⟨Scope.star, List.mem_singleton_self Scope.star, implies_star g⟩
  · rw [h] at hout
    cases hout with
    | star => exact ⟨star, List.mem_singleton_self star, implies_star g⟩
    | @finished e n hp hall hn =>
        obtain ⟨-, hfirst, hgrants⟩ := hp
        -- the scope held has arrived, so it was taken
        have hpos : 0 < n := by
          rcases Nat.eq_zero_or_pos n with rfl | hpos
          · rw [hfirst rfl] at hall
            cases hall
          · exact hpos
        exact covers_normalize e.scopes g (hgrants hpos g hg)

/-! ### Monotonicity -/

theorem grants_of_bareGrant {s g : Scope} (h : BareGrant roles s g) : Grants roles s g := by
  obtain ⟨r, hr, t, ht, hbare, hs, rfl⟩ := h
  exact ⟨r, hr, _, hs, t, ht, (Template.render_of_bare hbare).symm⟩

/-- **Holding more grants no less**, as far as an answer does not stop at a bare template. -/
theorem covers_of_covers {scopes' out out' : List Scope}
    (h : (compile roles maxSteps).resolve scopes = .ok out)
    (h' : (compile roles maxSteps).resolve scopes' = .ok out') (hcov : Covers scopes' scopes)
    (hbare : ∀ s g, BareGrant roles s g → (∃ t ∈ out', implies t s = true) →
      ∃ u ∈ out', implies u g = true) : Covers out' out := by
  have ha' := answer_of_resolve h'
  exact fun s hs =>
    ((answer_of_resolve h).origin s hs).covered (ha'.held.trans hcov) ha'.grants hbare

/-- **Exactly when holding more grants no less.**  For validated roles, resolution is monotone if
and only if every answer that implies the scope `s` activating the role of a bare template exactly,
with nothing captured, also implies the scope `g` that the template then grants. -/
theorem resolve_mono_iff {roles : List Role} (h : validateRoles roles = .ok ()) :
    (∀ maxSteps (scopes scopes' out out' : List Scope), Covers scopes' scopes →
        (compile roles maxSteps).resolve scopes = .ok out →
        (compile roles maxSteps).resolve scopes' = .ok out' → Covers out' out) ↔
      ∀ s g, BareGrant roles s g → ∀ maxSteps (scopes out : List Scope),
        (compile roles maxSteps).resolve scopes = .ok out →
        (∃ t ∈ out, implies t s = true) → ∃ u ∈ out, implies u g = true := by
  constructor
  · intro hmono s g hb maxSteps scopes out hres ht
    -- `s` alone and the answer itself, under a limit that both stay below
    obtain ⟨alone, halone⟩ :
        ∃ alone, (compile roles (max maxSteps (stepBound roles 1))).resolve [s] = .ok alone :=
      resolve_of_stepBound h (Nat.le_max_right maxSteps (stepBound roles 1))
    have hself := resolve_answer hres (Nat.le_max_left maxSteps (stepBound roles 1))
    have hcov : Covers out [s] := fun x hx => List.mem_singleton.1 hx ▸ ht
    obtain ⟨v, hv, hvg⟩ := covered_of_grants halone (grants_of_bareGrant hb)
    obtain ⟨u, hu, huv⟩ := hmono _ _ _ _ _ hcov halone hself v hv
    exact ⟨u, hu, implies_trans huv hvg⟩
  · intro hclosed maxSteps scopes scopes' out out' hcov hres hres'
    exact covers_of_covers hres hres' hcov fun s g hb => hclosed s g hb maxSteps scopes' out' hres'

theorem resolve_mono_iff_desk :
    validateRoles deskRoles = .ok () ∧
      ∀ maxSteps (scopes scopes' out out' : List Scope), Covers scopes' scopes →
        (compile deskRoles maxSteps).resolve scopes = .ok out →
        (compile deskRoles maxSteps).resolve scopes' = .ok out' → Covers out' out := by
  have hlead : ∀ r ∈ deskRoles, ∀ t ∈ r.templates, t.hasPlaceholder = true →
      isWildcard t.lead = false := by decide
  refine ⟨validateRoles_desk, (resolve_mono_iff validateRoles_desk).2 ?_⟩
  rintro s g ⟨r, hr, t, ht, ⟨hp, hw, -⟩, -⟩
  rw [hlead r (Role.mem_of_mem_effective hr) t ht hp] at hw
  cases hw

/-- The holder of a desk has all seats whose number starts with the desk's. -/
def seatRoles : List Role := [.plain "desk*".toList ["assume:seat*<..>".toList] ⟨0, 0⟩]

/-- **Holding more can grant less.**  Whoever holds the one role of `seatRoles` with nothing
captured is granted `assume:seat*`; whoever holds it for every capture as well is granted only
`assume:seat**`. -/
theorem resolve_not_mono :
    ¬ ∀ roles : List Role, validateRoles roles = .ok () →
      ∀ maxSteps (scopes scopes' out out' : List Scope), Covers scopes' scopes →
        (compile roles maxSteps).resolve scopes = .ok out →
        (compile roles maxSteps).resolve scopes' = .ok out' → Covers out' out := by
  intro hmono
  have heff : Role.effective seatRoles = seatRoles := by decide +kernel
  have hvalid : validateRoles seatRoles = .ok () := by
    refine validateRoles_iff_check.2 ⟨?_, by decide +kernel⟩
    simp only [heff, Role.validate_eq_ok_iff]
    decide
  have hless : (compile seatRoles 4).resolve ["assume:desk".toList] =
      .ok ["assume:desk".toList, "assume:seat*".toList] := by cbv
  have hmore : (compile seatRoles 4).resolve ["assume:desk".toList, "assume:desk*".toList] =
      .ok ["assume:desk*".toList, "assume:seat**".toList] := by cbv
  have hcov : Covers ["assume:desk".toList, "assume:desk*".toList] ["assume:desk".toList] :=
    covers_of_subset (by simp)
  have := hmono seatRoles hvalid 4 _ _ _ _ hcov hless hmore
  revert this
  unfold Covers
  decide

end DelegatedScopes.Resolver
