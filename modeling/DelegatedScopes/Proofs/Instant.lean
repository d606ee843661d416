import DelegatedScopes.Instant

/-!
# Instants — their order and what lies between them

Instants are ordered by their second and then by their nanoseconds.  The time between two instants
follows the order, except for leap seconds: then it may be a second off.  A clock never shows a leap
second.

* `Instant.noLater_iff`, `Instant.earlier_iff`: the order in plain terms.
* `Instant.earlier_of_lt_since`: what lies behind a reading of a clock by more than some time is
  earlier.
* `Instant.since_le_since`: more time has passed since what is earlier.
-/

namespace DelegatedScopes.Instant

variable {a b c now past : Instant}

/-! ### The order -/

/-- Instants are ordered by their seconds, then by their nanoseconds. -/
theorem noLater_iff : noLater a b = true ↔
    a.second < b.second ∨ a.second = b.second ∧ a.nano ≤ b.nano := by
  rw [noLater, order, Ordering.isLE_then_iff_and, Int.isLE_compare, Nat.isLE_compare,
    Int.compare_eq_lt]
  omega

/-- An instant is earlier in its second, or in its nanosecond of the same one. -/
theorem earlier_iff : earlier a b = true ↔
    a.second < b.second ∨ a.second = b.second ∧ a.nano < b.nano := by
  rw [earlier, order, Ordering.isLT_iff_eq_lt, Ordering.then_eq_lt, Int.compare_eq_lt,
    Int.compare_eq_eq, Nat.compare_eq_lt]

theorem noLater_refl (a : Instant) : noLater a a = true :=
  noLater_iff.2 (Or.inr ⟨rfl, Nat.le_refl _⟩)

theorem noLater_trans (h : noLater a b = true) (h' : noLater b c = true) : noLater a c = true := by
  rw [noLater_iff] at *
  omega

/-- Instants that are no later than each other are one instant. -/
theorem noLater_antisymm (h : noLater a b = true) (h' : noLater b a = true) : a = b := by
  obtain ⟨as, an⟩ := a
  obtain ⟨bs, bn⟩ := b
  simp only [noLater_iff] at h h'
  rw [mk.injEq]
  omega

theorem earlier_irrefl (a : Instant) : earlier a a = false := by
  refine Bool.eq_false_iff.2 fun h => ?_
  rw [earlier_iff] at h
  omega

theorem noLater_of_earlier (h : earlier a b = true) : noLater a b = true := by
  rw [noLater_iff]
  rw [earlier_iff] at h
  omega

/-- If the first of two instants is not earlier, the second is no later. -/
theorem noLater_of_not_earlier (h : earlier a b = false) : noLater b a = true := by
  rw [noLater_iff]
  have h' : ¬earlier a b = true := by simp [h]
  rw [earlier_iff] at h'
  omega

theorem earlier_of_noLater (h : noLater a b = true) (h' : earlier b c = true) :
    earlier a c = true := by
  rw [noLater_iff] at h
  rw [earlier_iff] at *
  omega

/-- What is no later than the other is not the later one. -/
theorem latest_eq_left (h : noLater b a = true) : latest a b = a := by
  rw [latest]
  split
  · rename_i h'
    exact noLater_antisymm h h'
  · rfl

/-! ### What lies between -/

theorem since_eq (hnow : now.isLeap = false) (hpast : past.isLeap = false) :
    now.since past =
      (now.second - past.second) * 1000000000 + ((now.nano : Int) - past.nano) := by
  rw [since, leapBetween, hnow, hpast]
  split <;> simp

/-- What lies behind a reading of the clock is earlier. -/
theorem earlier_of_lt_since {delay : Nat} (hnow : now.isLeap = false)
    (h : (delay : Int) < now.since past) : earlier past now = true := by
  rw [earlier_iff]
  have hnano : now.nano < 1000000000 := by simpa [isLeap] using hnow
  rw [since, leapBetween, hnow] at h
  split at h
  · rename_i hday
    -- the past can be a leap second, and then it is not in the second of `now`
    have hne : now.second ≠ past.second := fun heq => by simp [heq] at hday
    split at h
    · rename_i hleap
      have hpast : 1000000000 ≤ past.nano := by simpa [isLeap] using hleap
      omega
    · omega
  · omega
  · simp only [Bool.false_eq_true, if_false] at h
    omega

/-- More time has passed since what is earlier. -/
theorem since_le_since (hnow : now.isLeap = false) (ha : a.isLeap = false) (hb : b.isLeap = false)
    (h : noLater a b = true) : now.since b ≤ now.since a := by
  rw [since_eq hnow ha, since_eq hnow hb]
  rw [noLater_iff] at h
  simp only [isLeap, decide_eq_false_iff_not] at ha hb
  omega

end DelegatedScopes.Instant
