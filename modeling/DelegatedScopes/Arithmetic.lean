/-!
# Whole numbers

* `total`: the sum of some numbers.
* `twoTo`, `tenTo`: powers.
-/

namespace DelegatedScopes

/-- The sum of some numbers. -/
def total : List Nat → Nat
  | [] => 0
  | n :: ns => n + total ns

/-- A power of two. -/
def twoTo (n : Nat) : Nat := Nat.pow 2 n

/-- A power of ten. -/
def tenTo (n : Nat) : Nat := Nat.pow 10 n

theorem tenTo_pos (n : Nat) : 0 < tenTo n := Nat.pow_pos (by decide)

theorem tenTo_add (m n : Nat) : tenTo (m + n) = tenTo m * tenTo n := Nat.pow_add 10 m n

/-- A sum grows when none of its terms shrinks and one of them grows. -/
theorem total_map_lt {α : Type} {f f' : α → Nat} {xs : List α} (hle : ∀ x, f x ≤ f' x) {a : α}
    (ha : a ∈ xs) (hlt : f a < f' a) : total (xs.map f) < total (xs.map f') := by
  have htotal : ∀ ys : List α, total (ys.map f) ≤ total (ys.map f') := by
    intro ys
    induction ys with
    | nil => simp
    | cons y ys ih => exact Nat.add_le_add (hle y) ih
  induction xs with
  | nil => simp at ha
  | cons x xs ih =>
    rcases List.mem_cons.1 ha with rfl | ha
    · exact Nat.add_lt_add_of_lt_of_le hlt (htotal xs)
    · exact Nat.add_lt_add_of_le_of_lt (hle x) (ih ha)

end DelegatedScopes
