import DelegatedScopes.Scope.Pattern

/-!
# Scopes — implication and the sort order

Implication compares literal parts, and so is a matter of which text starts which.

* `implies_refl`, `implies_trans`, `implies_antisymm`: implication is a partial order.
* `order` is a lawful total order (`Std.TransCmp`, `Std.LawfulEqCmp`).
* `ordered_of_implies`, `implies_of_between`: a wildcard scope is sorted before everything it
  implies, and whatever is sorted between the two it implies as well.

The last point rests on the same fact about texts (`prefix_of_between`): the texts that start with
a given one are a contiguous run of the dictionary order, and the run starts at that text.
-/

namespace DelegatedScopes

namespace Text

theorem leads_iff_isPrefix {a b : Text} : leads a b = true ↔ a <+: b := List.isPrefixOf_iff_prefix

/-- Nothing is left of a text that does not start with another. -/
theorem after?_eq_none {a b : Text} : after? a b = none ↔ ¬ a <+: b := by
  rw [Option.eq_none_iff_forall_ne_some]
  refine ⟨fun h ⟨rest, e⟩ => h rest (after?_eq_some.2 e.symm), fun h rest e => ?_⟩
  exact h ⟨rest, (after?_eq_some.1 e).symm⟩

/-- A text comes no later than the texts it starts. -/
theorem isLE_of_prefix {a b : Text} (h : a <+: b) : (compare a b).isLE = true := by
  induction a generalizing b with
  | nil => cases b <;> rfl
  | cons c cs ih =>
      obtain ⟨rest, rfl⟩ := h
      rw [List.cons_append, List.compare_cons_cons, Std.compare_self]
      exact ih (List.prefix_append cs rest)

/-- Whatever lies between a text and one that it starts, it starts too. -/
theorem prefix_of_between {a b c : Text} (hac : a <+: c) (hab : (compare a b).isLE = true)
    (hbc : (compare b c).isLE = true) : a <+: b := by
  induction a generalizing b c with
  | nil => exact List.nil_prefix
  | cons x xs ih =>
      obtain ⟨rest, rfl⟩ := hac
      cases b with
      | nil => simp [List.compare_cons_nil] at hab
      | cons y ys =>
          rw [List.cons_append, List.compare_cons_cons, Ordering.isLE_then_iff_or] at hbc
          rw [List.compare_cons_cons, Ordering.isLE_then_iff_or] at hab
          -- the first characters agree, since each bounds the other
          have hxy : compare x y = .eq := by
            rcases hab with hlt | ⟨heq, -⟩
            · rcases hbc with hgt | ⟨heq, -⟩
              · exact absurd (Std.TransCmp.lt_trans hlt hgt) (by simp [Std.compare_self])
              · rw [Std.OrientedCmp.eq_comm] at heq
                exact heq
            · exact heq
          obtain rfl := Std.LawfulEqCmp.eq_of_compare hxy
          simp only [Std.compare_self, reduceCtorEq, true_and, false_or] at hab hbc
          obtain ⟨more, h⟩ := ih (List.prefix_append xs rest) hab hbc
          exact ⟨more, by rw [← h, List.cons_append]⟩

end Text

namespace Scope

/-! ### A scope and its literal part -/

/-- A wildcard scope is the one scope with its literal part that has a wildcard. -/
theorem literal_eq_iff {s : Scope} (h : s.isWildcard = true) {t : Text} :
    s.literal = t ↔ t ++ ['*'] = s := by
  constructor
  · rintro rfl
    exact (eq_of_isWildcard h).symm
  · rintro rfl
    exact literal_append_star t

theorem append_star_ne {s : Scope} (h : s.isWildcard = false) (t : Text) : t ++ ['*'] ≠ s := by
  rintro rfl
  rw [isWildcard_append_star] at h
  cases h

/-! ### Implication -/

/-- A scope implies itself, and a wildcard implies all that its literal part starts. -/
theorem implies_iff {a b : Scope} :
    implies a b = true ↔ a = b ∨ a.isWildcard = true ∧ a.literal <+: b.literal := by
  unfold implies
  split
  · rename_i h
    rw [Text.leads_iff_isPrefix]
    refine ⟨fun hp => Or.inr ⟨h, hp⟩, ?_⟩
    rintro (rfl | ⟨-, hp⟩)
    · exact List.prefix_rfl
    · exact hp
  · rename_i h
    simp [h]

/-- Every scope implies itself. -/
theorem implies_refl (a : Scope) : implies a a = true := implies_iff.2 (Or.inl rfl)

/-- What a text with a wildcard implies is what continues the text. -/
theorem implies_append_star_iff {t : Text} {b : Scope} :
    implies (t ++ ['*']) b = true ↔ t <+: b.literal := by
  rw [implies, if_pos (isWildcard_append_star t), literal_append_star, Text.leads_iff_isPrefix]

theorem prefix_of_implies {a b : Scope} (h : implies a b = true) : a.literal <+: b.literal := by
  rcases implies_iff.1 h with rfl | ⟨-, hp⟩
  · exact List.prefix_rfl
  · exact hp

/-- Only a wildcard scope implies another. -/
theorem isWildcard_of_implies_ne {a b : Scope} (h : implies a b = true) (hne : a ≠ b) :
    a.isWildcard = true := ((implies_iff.1 h).resolve_left hne).1

/-- What is implied by an implied scope is implied. -/
theorem implies_trans {a b c : Scope} (hab : implies a b = true) (hbc : implies b c = true) :
    implies a c = true := by
  rcases implies_iff.1 hab with rfl | ⟨hw, hp⟩
  · exact hbc
  · exact implies_iff.2 (Or.inr ⟨hw, hp.trans (prefix_of_implies hbc)⟩)

/-- Scopes that imply each other are one scope. -/
theorem implies_antisymm {a b : Scope} (hab : implies a b = true) (hba : implies b a = true) :
    a = b := by
  rcases implies_iff.1 hab with h | ⟨hw, hp⟩
  · exact h
  · rcases implies_iff.1 hba with h | ⟨hw', hp'⟩
    · exact h.symm
    · exact eq_of_parts (hp.eq_of_length_le hp'.length_le) (hw.trans hw'.symm)

theorem isWildcard_star : isWildcard star = true := rfl

theorem implies_star (a : Scope) : implies star a = true :=
  implies_iff.2 (Or.inr ⟨isWildcard_star, List.nil_prefix⟩)

/-- A scope is longer than what implies it, where a wildcard counts for less than no character. -/
def weight (a : Scope) : Nat := 2 * a.literal.length + if a.isWildcard then 0 else 1

theorem weight_lt {a b : Scope} (h : implies a b = true) (hne : a ≠ b) : a.weight < b.weight := by
  obtain ⟨hw, hp⟩ := (implies_iff.1 h).resolve_left hne
  have hlen := hp.length_le
  cases hb : b.isWildcard with
  | true =>
      have : a.literal.length ≠ b.literal.length := fun e =>
        hne (eq_of_parts (hp.eq_of_length e) (hw.trans hb.symm))
      simp only [weight, hw, hb, if_true]
      omega
  | false =>
      simp only [weight, hw, hb, if_true]
      simp only [Bool.false_eq_true, if_false]
      omega

/-! ### The sort order -/

theorem order_eq_compareLex :
    order = compareLex (compareOn literal) (compareOn fun s => (!s.isWildcard).toNat) := by
  funext a b
  simp only [order, compareLex, compareOn]
  cases a.isWildcard <;> cases b.isWildcard <;> rfl

instance : Std.TransCmp order := order_eq_compareLex ▸ inferInstance

instance : Std.LawfulEqCmp order where
  eq_of_compare {a b} h := by
    rw [order, Ordering.then_eq_eq] at h
    have hw := Nat.compare_eq_eq.1 h.2
    refine eq_of_parts (Std.LawfulEqCmp.eq_of_compare h.1) ?_
    cases ha : a.isWildcard <;> cases hb : b.isWildcard <;> simp [ha, hb] at hw ⊢

theorem ordered_trans {a b c : Scope} (hab : ordered a b = true) (hbc : ordered b c = true) :
    ordered a c = true := Std.TransCmp.isLE_trans hab hbc

theorem ordered_antisymm {a b : Scope} (hab : ordered a b = true) (hba : ordered b a = true) :
    a = b := Std.LawfulEqCmp.eq_of_compare (Std.OrientedCmp.isLE_antisymm hab hba)

theorem ordered_total (a b : Scope) : (ordered a b || ordered b a) = true := by
  have hs : order b a = (order a b).swap := Std.OrientedCmp.eq_swap
  rw [ordered, ordered, hs]
  cases order a b <;> rfl

theorem isLE_literal {a b : Scope} (h : ordered a b = true) :
    (compare a.literal b.literal).isLE = true := by
  rw [ordered, order, Ordering.isLE_then_iff_or] at h
  rcases h with h | ⟨h, -⟩ <;> simp [h]

/-- A scope is sorted before whatever it implies. -/
theorem ordered_of_implies {a b : Scope} (h : implies a b = true) : ordered a b = true := by
  rcases implies_iff.1 h with rfl | ⟨hw, hp⟩
  · simp [ordered, Std.ReflCmp.compare_self]
  · rw [ordered, order, Ordering.isLE_then_iff_and]
    refine ⟨Text.isLE_of_prefix hp, Or.inr ?_⟩
    rw [hw]
    cases b.isWildcard <;> rfl

/-- Whatever is sorted between a scope and one that it implies, it implies too. -/
theorem implies_of_between {a b c : Scope} (hw : a.isWildcard = true) (hac : implies a c = true)
    (hab : ordered a b = true) (hbc : ordered b c = true) : implies a b = true :=
  implies_iff.2 (Or.inr ⟨hw,
    Text.prefix_of_between (prefix_of_implies hac) (isLE_literal hab) (isLE_literal hbc)⟩)

end Scope

end DelegatedScopes
