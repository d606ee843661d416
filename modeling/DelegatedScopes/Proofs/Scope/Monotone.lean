import DelegatedScopes.Proofs.Scope.Overlap
import DelegatedScopes.Scope.Template
import Mathlib.Tactic.ByContra

/-!
# Scopes — a broader scope grants more

* `activate_mono`: a scope activates whatever a scope it implies activates, and captures a
  beginning of what that one captures.
* `render_mono`: what a template grants under the broader activation implies what it grants under
  the narrower one, unless the template is bare and the narrower activation is exact and captured
  nothing.

A *bare* template has a star right before its first placeholder and nothing but placeholders from
there on.  With an empty exact capture it renders to a wildcard scope, `q*`; an open activation
adds a star of its own, and `q**` does not imply `q*`.  So monotonicity of rendering fails at bare
templates, and nowhere else.
-/

namespace DelegatedScopes

namespace Scope

/-- **Activation is monotone.**  A scope activates whatever a scope it implies activates, and
captures a beginning of what that one captures. -/
theorem activate_mono {id : Text} {a b : Scope} {mb : Activation} (hab : implies a b = true)
    (hb : activate id b = some mb) :
    ∃ ma, activate id a = some ma ∧ ma.capture <+: mb.capture := by
  rw [activate_eq_matchRole] at hb ⊢
  -- what the narrower scope has in common with the role, the broader one has too
  obtain ⟨hsat, hid⟩ := common_of_matchRole hb
  have hcommon : Common a (assume ++ id) (literal (assume ++ id) ++ mb.capture) :=
    ⟨satisfiedBy_of_implies hab hsat, hid⟩
  obtain ⟨ma, ha⟩ := exists_matchRole hcommon
  exact ⟨ma, ha, (List.prefix_append_right_inj _).1 (prefix_of_common ha hcommon)⟩

/-- What starts a scope starts its literal part, unless it is all of a wildcard scope. -/
theorem prefix_literal_or_eq {s : Scope} {u : Text} (h : u <+: s) :
    u <+: s.literal ∨ u = s ∧ isWildcard s = true := by
  cases hw : isWildcard s with
  | false => exact Or.inl (by rwa [eq_of_not_isWildcard hw])
  | true =>
      rw [eq_of_isWildcard hw, List.prefix_concat_iff] at h
      rcases h with h | h
      · exact Or.inr ⟨h.trans (eq_of_isWildcard hw).symm, rfl⟩
      · exact Or.inl h

end Scope

/-! ### Rendering -/

namespace Template
open Scope

/-- A star right before the first placeholder, and nothing but placeholders from there on. -/
def Bare (t : Template) : Prop :=
  t.hasPlaceholder = true ∧ isWildcard t.lead = true ∧ ∀ p ∈ t.rest, p = []

theorem render_of_not_hasPlaceholder {t : Template} (h : t.hasPlaceholder = false)
    (m : Activation) : t.render m = t.lead := by
  have hr : t.rest = [] := by simpa [hasPlaceholder] using h
  simp [render, h, fill, hr]

theorem render_open {t : Template} (h : t.hasPlaceholder = true) {m : Activation}
    (hm : m.isOpen = true) : t.render m = t.lead ++ m.capture ++ ['*'] := by
  simp [render, h, hm]

theorem render_exact {t : Template} {m : Activation} (hm : m.isOpen = false) :
    t.render m = t.fill m.capture := by
  simp [render, hm]

/-- With a placeholder, the capture follows the text before the first one. -/
theorem lead_append_prefix_fill {t : Template} (h : t.hasPlaceholder = true) (c : Text) :
    t.lead ++ c <+: t.fill c := by
  obtain ⟨p, ps, hr⟩ : ∃ p ps, t.rest = p :: ps := by
    cases hr : t.rest with
    | nil => simp [hasPlaceholder, hr] at h
    | cons p ps => exact ⟨p, ps, rfl⟩
  rw [fill, hr, List.prefix_append_right_inj, List.flatMap_cons, List.append_assoc]
  exact List.prefix_append c _

/-- Filled with nothing, a template is its parts joined. -/
theorem rest_eq_nil_of_fill_eq {t : Template} (h : t.fill [] = t.lead) : ∀ p ∈ t.rest, p = [] := by
  simpa [fill, List.flatMap_eq_nil_iff] using h

theorem render_of_bare {t : Template} (h : t.Bare) : t.render (.exactly []) = t.lead := by
  have : t.rest.flatMap ([] ++ ·) = [] := by simpa [List.flatMap_eq_nil_iff] using h.2.2
  rw [render_exact rfl, fill]
  simp only [Activation.exactly, this, List.append_nil]

/-- **Rendering is monotone, except at bare templates.**  A beginning of the capture with a
wildcard implies what the template grants under the full capture, unless the template is bare, the
capture is empty and the activation exact. -/
theorem implies_render {t : Template} (ht : t.hasPlaceholder = true) {m : Activation} {c : Text}
    (hc : c <+: m.capture) (hend : m.isOpen = false → isWildcard m.capture = false) :
    implies (t.lead ++ c ++ ['*']) (t.render m) = true ∨ t.Bare ∧ m = .exactly [] := by
  have hlead : t.lead ++ c <+: t.lead ++ m.capture := (List.prefix_append_right_inj _).2 hc
  cases hm : m.isOpen with
  | true =>
      rw [render_open ht hm, implies_append_star_iff, literal_append_star]
      exact Or.inl hlead
  | false =>
      have hfill := lead_append_prefix_fill ht m.capture
      rw [render_exact hm]
      rcases prefix_literal_or_eq (hlead.trans hfill) with hp | ⟨heq, hw⟩
      · exact Or.inl (implies_append_star_iff.2 hp)
      · -- the rendered scope ends where the known beginning of the capture does
        have hfill' : t.lead ++ m.capture = t.fill m.capture :=
          hfill.eq_of_length_le (heq ▸ hlead.length_le)
        have hnil : m.capture = [] := by
          by_contra hne
          rw [← hfill', isWildcard_append hne, hend hm] at hw
          cases hw
        rw [hnil, List.append_nil] at hfill'
        rw [hnil, ← hfill'] at hw
        refine Or.inr ⟨⟨ht, hw, rest_eq_nil_of_fill_eq hfill'.symm⟩, ?_⟩
        cases m; cases hm; cases hnil; rfl

/-- **A broader scope grants more through every template**, except where a bare template was
activated exactly with nothing captured. -/
theorem render_mono {t : Template} {id : Text} {a b : Scope} {ma mb : Activation}
    (hab : implies a b = true) (ha : activate id a = some ma) (hb : activate id b = some mb) :
    implies (t.render ma) (t.render mb) = true ∨ t.Bare ∧ mb = .exactly [] := by
  rcases implies_iff.1 hab with rfl | ⟨hw, -⟩
  · rw [ha] at hb
    cases hb
    exact Or.inl (implies_refl _)
  · cases ht : t.hasPlaceholder with
    | false =>
        rw [render_of_not_hasPlaceholder ht, render_of_not_hasPlaceholder ht]
        exact Or.inl (implies_refl _)
    | true =>
        obtain ⟨m, hm, hc⟩ := activate_mono hab hb
        obtain rfl : m = ma := Option.some.inj (hm.symm.trans ha)
        rw [render_open ht ((isOpen_of_activate ha).trans hw)]
        exact implies_render ht hc (isWildcard_capture hb)

end Template

end DelegatedScopes
