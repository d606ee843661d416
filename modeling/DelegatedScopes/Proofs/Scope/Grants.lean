import DelegatedScopes.Proofs.Scope.Monotone

/-!
# Scopes — what a template grants

* `Template.forall_implies_render_iff`: what a template grants grows with the scope held, whatever
  the role, exactly when the template is not bare.
* `Template.activate_render_mono`: so it does for a template without a placeholder, and for one
  with no star right before its first placeholder.

The second statement is what lets an expansion pass over a scope that another one implies: what
each role would grant for it is implied by what the role grants for the other one.  The star before
the placeholder matters because an open activation writes a star of its own behind it, which makes
the first one a plain character.
-/

namespace DelegatedScopes.Template

open Scope

variable {t : Template}

theorem not_bare_of_lead (h : t.hasPlaceholder = false ∨ isWildcard t.lead = false) : ¬ t.Bare := by
  rintro ⟨hp, hw, -⟩
  rcases h with h | h
  · rw [hp] at h
    cases h
  · rw [hw] at h
    cases h

/-- Activated by every scope of `assume:*`, a bare template grants less than activated by
`assume:` alone. -/
theorem Bare.not_implies (h : t.Bare) :
    implies (t.render (.startingWith [])) (t.render (.exactly [])) = false := by
  rw [render_open h.1 rfl, render_of_bare h, Bool.eq_false_iff]
  intro himp
  -- the text before the placeholder is its literal part and a star, and does not start the former
  have hlen := (implies_append_star_iff.1 himp).length_le
  have hlead := congrArg List.length (eq_of_isWildcard h.2.1)
  simp only [Activation.startingWith, List.length_append, List.length_singleton] at hlen hlead
  omega

/-- **What a template grants grows with the scope held exactly when the template is not bare.** -/
theorem forall_implies_render_iff :
    (∀ (id : Text) (a b : Scope) (ma mb : Activation), implies a b = true →
        activate id a = some ma → activate id b = some mb →
        implies (t.render ma) (t.render mb) = true) ↔ ¬ t.Bare := by
  constructor
  · intro h hbare
    have himp := h "*".toList "assume:*".toList "assume:".toList (.startingWith []) (.exactly [])
      (by decide) (by decide) (by decide)
    rw [hbare.not_implies] at himp
    cases himp
  · intro hbare id a b ma mb hab ha hb
    exact (render_mono hab ha hb).resolve_right fun h => hbare h.1

/-- **Activation and then rendering is monotone.**  Whatever role a scope activates, a scope that
implies it activates too, and captures a beginning of what it captures; and a template without a
placeholder, or with no star right before the first one, grants through the broader scope what
implies its grant through the narrower one. -/
theorem activate_render_mono (ht : t.hasPlaceholder = false ∨ isWildcard t.lead = false)
    {id : Text} {a b : Scope} (hab : implies a b = true) {mb : Activation}
    (hb : activate id b = some mb) :
    ∃ ma, activate id a = some ma ∧ ma.capture <+: mb.capture ∧
      implies (t.render ma) (t.render mb) = true := by
  obtain ⟨ma, ha, hcapture⟩ := activate_mono hab hb
  have hgrant := forall_implies_render_iff.2 (not_bare_of_lead ht)
  exact ⟨ma, ha, hcapture, hgrant id a b ma mb hab ha hb⟩

/-- The broader scope stops inside the role's literal part, and the narrower one goes on beyond it;
a star stands in the template, but not right before its first placeholder. -/
theorem activate_render_mono_porter :
    isWildcard (parse "desk:<..>:*<..>".toList).lead = false ∧
      implies "assume:por*".toList "assume:porter/é/x".toList = true ∧
      activate "porter/*".toList "assume:porter/é/x".toList = some (.exactly "é/x".toList) ∧
      ∃ ma, activate "porter/*".toList "assume:por*".toList = some ma ∧
        ma.capture <+: "é/x".toList ∧
        implies ((parse "desk:<..>:*<..>".toList).render ma)
          ((parse "desk:<..>:*<..>".toList).render (.exactly "é/x".toList)) = true := by
  have hlead : isWildcard (parse "desk:<..>:*<..>".toList).lead = false := by decide
  have himplies : implies "assume:por*".toList "assume:porter/é/x".toList = true := by decide
  have hactivate : activate "porter/*".toList "assume:porter/é/x".toList =
      some (.exactly "é/x".toList) := by decide
  exact ⟨hlead, himplies, hactivate, activate_render_mono (.inr hlead) himplies hactivate⟩

end DelegatedScopes.Template
