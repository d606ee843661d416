import DelegatedScopes.Proofs.Scope.Overlap
import DelegatedScopes.Proofs.Text

/-!
# Scopes — what implication and the sort order mean

* `implies_inclusion`: a scope implies another one exactly when all that satisfies the other
  satisfies it.  So implication is a partial order.
* `order_groups`: the sort order is total, it is an order of bytes, and what a wildcard scope
  implies is a contiguous run of it that starts at that scope.

Two texts are enough to tell whether a scope includes another: the other scope's literal part, and
the other scope as it is written, read as a text.  Both satisfy it.
-/

namespace DelegatedScopes.Scope

variable {a b : Scope}

/-- Every scope, read as a text, satisfies itself. -/
theorem satisfiedBy_self (s : Scope) : s.satisfiedBy s = true := by
  cases h : s.isWildcard with
  | true => exact (satisfiedBy_wildcard_iff h).2 (literal_isPrefix s)
  | false => exact (satisfiedBy_exact_iff h).2 rfl

/-- A scope implies what it includes. -/
theorem implies_of_satisfiedBy
    (h : ∀ w : Text, b.satisfiedBy w = true → a.satisfiedBy w = true) : implies a b = true := by
  cases ha : a.isWildcard with
  | true =>
      have hliteral := h b.literal (satisfiedBy_literal b)
      exact implies_iff.2 (.inr ⟨ha, (satisfiedBy_wildcard_iff ha).1 hliteral⟩)
  | false =>
      have hself := h b (satisfiedBy_self b)
      exact implies_iff.2 (.inl ((satisfiedBy_exact_iff ha).1 hself).symm)

/-- **Implication is inclusion.**  A scope implies another one exactly when every text that
satisfies the other satisfies it.  So implication is reflexive and transitive, and two scopes that
imply each other are written alike. -/
theorem implies_inclusion :
    (∀ a b : Scope, implies a b = true ↔
      ∀ w : Text, b.satisfiedBy w = true → a.satisfiedBy w = true) ∧
    (∀ a : Scope, implies a a = true) ∧
    (∀ a b c : Scope, implies a b = true → implies b c = true → implies a c = true) ∧
    ∀ a b : Scope, implies a b = true → implies b a = true → a = b := by
  have hiff : ∀ a b : Scope, implies a b = true ↔
      ∀ w : Text, b.satisfiedBy w = true → a.satisfiedBy w = true :=
    fun a b => ⟨fun h _ => satisfiedBy_of_implies h, implies_of_satisfiedBy⟩
  refine ⟨hiff, fun a => ?_, fun a b c hab hbc => ?_, fun a b => implies_antisymm⟩
  · exact (hiff a a).2 fun w h => h
  · exact (hiff a c).2 fun w h => (hiff a b).1 hab w ((hiff b c).1 hbc w h)

/-- `*` implies `q*`, which implies `q**`; and the empty scope implies itself. -/
theorem implies_inclusion_queue :
    implies "*".toList "q*".toList = true ∧ implies "q*".toList "q**".toList = true ∧
      implies "*".toList "q**".toList = true ∧ implies [] [] = true ∧ ([] : Scope) = [] :=
  ⟨by decide, by decide, implies_inclusion.2.2.1 _ "q*".toList _ (by decide) (by decide), by decide,
    implies_inclusion.2.2.2 [] [] (by decide) (by decide)⟩

/-! ### The sort order -/

/-- The sort order compares the bytes of the literal parts. -/
theorem order_eq_utf8 (a b : Scope) :
    order a b = (compare a.literal.utf8 b.literal.utf8).then
      (compare b.isWildcard.toNat a.isWildcard.toNat) := by
  rw [order, Text.compare_utf8]

/-- **The sort order groups what a wildcard scope implies.**  It compares the bytes of the literal
parts and puts the wildcard first.  It is a total order, and it takes only a scope and the same
scope for equal.  A wildcard scope comes before everything that it implies, and whatever stands
between the two it implies as well. -/
theorem order_groups :
    (∀ a b : Scope, order a b = (compare a.literal.utf8 b.literal.utf8).then
      (compare b.isWildcard.toNat a.isWildcard.toNat)) ∧
    (∀ a b : Scope, order a b = .eq ↔ a = b) ∧
    (∀ a b : Scope, order b a = (order a b).swap) ∧
    (∀ a b : Scope, ordered a b = true ∨ ordered b a = true) ∧
    (∀ a b c : Scope, ordered a b = true → ordered b c = true → ordered a c = true) ∧
    ∀ p x : Scope, p.isWildcard = true → implies p x = true → ordered p x = true ∧
      ∀ y : Scope, ordered p y = true → ordered y x = true → implies p y = true := by
  refine ⟨order_eq_utf8, fun a b => ⟨Std.LawfulEqCmp.eq_of_compare, ?_⟩,
    fun a b => Std.OrientedCmp.eq_swap, fun a b => ?_, fun a b c => ordered_trans,
    fun p x hp hpx => ⟨ordered_of_implies hpx, fun y => implies_of_between hp hpx⟩⟩
  · rintro rfl
    exact Std.ReflCmp.compare_self
  · rw [← Bool.or_eq_true]
    exact ordered_total a b

/-- The run of `q**` holds `q*z*` and, after it, `q*é`: a star inside the literal part, and a
character of two bytes. -/
theorem order_groups_queue :
    implies "q**".toList "q*é".toList = true ∧ ordered "q**".toList "q*é".toList = true ∧
      ordered "q**".toList "q*z*".toList = true ∧ ordered "q*z*".toList "q*é".toList = true ∧
      implies "q**".toList "q*z*".toList = true := by
  have hrun := order_groups.2.2.2.2.2 "q**".toList "q*é".toList (by decide) (by decide)
  exact ⟨by decide, hrun.1, by decide, by decide, hrun.2 "q*z*".toList (by decide) (by decide)⟩

end DelegatedScopes.Scope
