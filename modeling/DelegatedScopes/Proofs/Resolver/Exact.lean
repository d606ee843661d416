import DelegatedScopes.Proofs.Resolver.Closure
import DelegatedScopes.Proofs.Scope.Template

/-!
# Resolver — no wildcard comes in through a capture

* `Role.Grants.isWildcard_eq_false`: under guarded scopes, the holder of a scope without a wildcard
  is granted none with one.
* `Role.Closure.isWildcard_eq_false`: so no chain of grants leads to a wildcard scope.
* `Resolver.Answer.mem_iff_closure`: an answer without wildcards is the closure itself.
* `Resolver.resolve_exact`: with no wildcard in the scopes held and guarded scopes in the roles, no
  scope of the answer has a wildcard, and the answer leaves out no scope of the closure.

A scope without a wildcard activates a role exactly, whatever the role's id, and what it captures
does not end in a star because the scope does not.  Stars inside the capture stay inside.
-/

namespace DelegatedScopes

open Scope

namespace Role

variable {roles : List Role} {scopes : List Scope}

/-- **The holder of a scope without a wildcard is granted none with one.** -/
theorem Grants.isWildcard_eq_false {s g : Scope}
    (hroles : ∀ r ∈ roles, ∀ text ∈ r.scopes, Template.Guarded text) (hg : Grants roles s g)
    (hs : s.isWildcard = false) : g.isWildcard = false := by
  obtain ⟨r, hr, m, hm, t, ht, rfl⟩ := hg
  obtain ⟨text, htext, rfl⟩ := List.mem_map.1 ht
  have hexact : m.isOpen = false := (isOpen_of_activate hm).trans hs
  rw [Template.render_exact hexact]
  exact Template.isWildcard_fill_parse (hroles r (mem_of_mem_effective hr) text htext)
    (isWildcard_capture hm hexact)

/-- **No chain of grants leads to a wildcard scope.** -/
theorem Closure.isWildcard_eq_false
    (hroles : ∀ r ∈ roles, ∀ text ∈ r.scopes, Template.Guarded text)
    (hheld : ∀ s ∈ scopes, s.isWildcard = false) {s : Scope} (h : Closure roles scopes s) :
    s.isWildcard = false := by
  induction h with
  | held h => exact hheld _ h
  | granted _ hg ih => exact hg.isWildcard_eq_false hroles ih

end Role

namespace Resolver

open Role (Closure Grants)

/-- **An answer without wildcards is the closure itself**, since its scopes imply only
themselves. -/
theorem Answer.mem_iff_closure {roles : List Role} {scopes out : List Scope}
    (h : Answer roles scopes out) (hout : ∀ s ∈ out, s.isWildcard = false) {s : Scope} :
    s ∈ out ↔ Closure roles scopes s := by
  have hmem : ∀ {g}, (∃ t ∈ out, implies t g = true) → g ∈ out := by
    rintro g ⟨t, ht, htg⟩
    by_contra hg
    have hne : t ≠ g := fun e => hg (e ▸ ht)
    have hw := hout t ht
    rw [isWildcard_of_implies_ne htg hne] at hw
    cases hw
  refine ⟨h.origin s, fun hs => ?_⟩
  induction hs with
  | held hs => exact hmem (h.held _ hs)
  | granted _ hg ih => exact hmem (h.grants _ ih _ hg)

/-- **No wildcard is smuggled in through a capture.**  When no scope of a role ends in a star or
has one right before a placeholder, and no scope held ends in a star, then no scope of the answer
does.  The answer is then all of the closure. -/
theorem resolve_exact {roles : List Role} {maxSteps : Nat} {scopes out : List Scope}
    (hroles : ∀ r ∈ roles, ∀ text ∈ r.scopes, Template.Guarded text)
    (hheld : ∀ s ∈ scopes, s.isWildcard = false)
    (h : (compile roles maxSteps).resolve scopes = .ok out) :
    (∀ s ∈ out, s.isWildcard = false) ∧ ∀ s, s ∈ out ↔ Closure roles scopes s := by
  have ha := answer_of_resolve h
  have hout : ∀ s ∈ out, s.isWildcard = false :=
    fun s hs => (ha.origin s hs).isWildcard_eq_false hroles hheld
  exact ⟨hout, fun _ => ha.mem_iff_closure hout⟩

/-- The star in the middle of the desk's number is handed on and stays in the middle. -/
theorem resolve_exact_desk :
    (∀ r ∈ deskRoles, ∀ text ∈ r.scopes, Template.Guarded text) ∧
      (compile deskRoles 4).resolve ["assume:desk*7".toList] =
        .ok ["assume:desk*7".toList, "assume:seat*7".toList, "enter".toList, "sit".toList] ∧
      (∀ s ∈ ["assume:desk*7".toList, "assume:seat*7".toList, "enter".toList, "sit".toList],
        isWildcard s = false) ∧
      ∀ s, s ∈ ["assume:desk*7".toList, "assume:seat*7".toList, "enter".toList, "sit".toList] ↔
        Closure deskRoles ["assume:desk*7".toList] s := by
  have hroles : ∀ r ∈ deskRoles, ∀ text ∈ r.scopes, Template.Guarded text := by decide
  have hrun : (compile deskRoles 4).resolve ["assume:desk*7".toList] =
      .ok ["assume:desk*7".toList, "assume:seat*7".toList, "enter".toList, "sit".toList] := by
    cbv
  exact ⟨hroles, hrun, resolve_exact hroles (by decide) hrun⟩

end Resolver

end DelegatedScopes
