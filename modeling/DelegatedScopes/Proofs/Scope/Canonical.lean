import DelegatedScopes.Proofs.Scope.NormalForm
import DelegatedScopes.Proofs.Scope.Overlap
import Mathlib.Order.BoundedOrder.Lattice

/-!
# Scopes — normal forms are canonical

* `normalize_eq_iff_maximal`: the normal form of a list is the one strictly increasing list of its
  maximal scopes.
* `normalize_canonical`: two lists have the same normal form exactly when each covers the other,
  and a list and its normal form are satisfied by the same texts.
* `ScopeSet`: the lists in normal form, ordered by what they grant.  Merging two of them is their
  least upper bound, nothing at all is the least scope set, and `*` alone is the greatest.
* `mergeNormal_union`: the merge of two sorted lists is the normal form of the two together, and
  what follows for lists in normal form.

The merge neither sorts nor looks for `*`.  It need not: merging keeps both lists sorted, and a
sweep of a sorted list depends on which scopes are in the list and on nothing else
(`sweep_eq_normalize`).  Among those, `*` comes first and implies all the rest.
-/

namespace DelegatedScopes

namespace Scope

/-- **The normal form of a list is the one strictly increasing list of its maximal scopes**: those
that no other scope of the list implies. -/
theorem normalize_eq_iff_maximal (scopes a : List Scope) :
    normalize scopes = a ↔
      (a.Pairwise fun x y => order x y = .lt) ∧
        ∀ s, s ∈ a ↔ s ∈ scopes ∧ ∀ t ∈ scopes, t ≠ s → implies t s = false := by
  constructor
  · rintro rfl
    exact ⟨pairwise_normalize scopes, fun s => mem_normalize⟩
  · rintro ⟨hinc, hmem⟩
    exact (eq_normalize hinc hmem).symm

/-! ### What a list grants -/

/-- What satisfies a scope of a list satisfies a scope of every list that covers it. -/
theorem Covers.satisfied {a b : List Scope} (h : Covers a b) {w : Text}
    (hw : ∃ s ∈ b, s.satisfiedBy w = true) : ∃ s ∈ a, s.satisfiedBy w = true := by
  obtain ⟨s, hs, hsw⟩ := hw
  obtain ⟨t, ht, hts⟩ := h s hs
  exact ⟨t, ht, satisfiedBy_of_implies hts hsw⟩

theorem covers_append_iff {a b c : List Scope} : Covers c (a ++ b) ↔ Covers c a ∧ Covers c b := by
  simp only [Covers, List.forall_mem_append]

/-- A list covers another one when it covers the normal form. -/
theorem covers_normalize_iff {a b : List Scope} : Covers a (normalize b) ↔ Covers a b :=
  ⟨fun h => h.trans (covers_normalize b), fun h => h.trans (covers_of_subset (normalize_subset b))⟩

/-- **Normal forms are canonical and keep the meaning.**  Two lists have the same normal form
exactly when every scope of either is implied by one of the other; and a text satisfies some scope
of a list exactly when it satisfies some scope of the normal form. -/
theorem normalize_canonical :
    (∀ a b : List Scope, normalize a = normalize b ↔
      (∀ s ∈ a, ∃ t ∈ b, implies t s = true) ∧ ∀ s ∈ b, ∃ t ∈ a, implies t s = true) ∧
    ∀ (a : List Scope) (w : Text),
      (∃ s ∈ a, s.satisfiedBy w = true) ↔ ∃ s ∈ normalize a, s.satisfiedBy w = true := by
  refine ⟨fun a b => ⟨fun h => ⟨?_, ?_⟩, fun ⟨hba, hab⟩ => normalize_eq_of_covers hab hba⟩,
    fun a w => ⟨?_, ?_⟩⟩
  · exact covers_normalize_iff.1 (h ▸ covers_of_subset (normalize_subset b))
  · exact covers_normalize_iff.1 (h ▸ covers_of_subset (normalize_subset a))
  · exact (covers_normalize a).satisfied
  · exact (covers_of_subset (normalize_subset a)).satisfied

/-! ### Lists in normal form -/

/-- A list in normal form: it is strictly increasing, and no scope of it implies another. -/
structure IsNormal (a : List Scope) : Prop where
  increasing : a.Pairwise fun x y => order x y = .lt
  apart : ∀ s ∈ a, ∀ t ∈ a, implies s t = true → s = t

instance (a : List Scope) : Decidable (IsNormal a) :=
  decidable_of_iff ((a.Pairwise fun x y => order x y = .lt) ∧
    ∀ s ∈ a, ∀ t ∈ a, implies s t = true → s = t) ⟨fun h => ⟨h.1, h.2⟩, fun h => ⟨h.1, h.2⟩⟩

theorem isNormal_normalize (scopes : List Scope) : IsNormal (normalize scopes) :=
  ⟨pairwise_normalize scopes, fun _ hs _ ht => eq_of_implies_of_mem_normalize hs ht⟩

namespace IsNormal

variable {a : List Scope}

/-- Every scope of a list in normal form is maximal, so there is nothing to drop. -/
theorem normalize_eq (h : IsNormal a) : normalize a = a := by
  refine (eq_normalize h.increasing fun s => ⟨fun hs => ⟨hs, fun t ht hne => ?_⟩, And.left⟩).symm
  rw [Bool.eq_false_iff]
  exact fun hts => hne (h.apart t ht s hs hts)

theorem sorted (h : IsNormal a) : a.Pairwise fun x y => ordered x y = true :=
  h.increasing.imp fun hlt => Ordering.isLE_iff_eq_lt_or_eq_eq.2 (.inl hlt)

end IsNormal

/-! ### Merging -/

/-- **A sweep of a sorted list depends only on which scopes are in it.** -/
theorem sweep_eq_normalize {sorted scopes : List Scope}
    (hsorted : sorted.Pairwise fun x y => ordered x y = true)
    (h : ∀ s, s ∈ sorted ↔ s ∈ scopes) : sweep sorted = normalize scopes :=
  eq_normalize (pairwise_sweep hsorted) fun _ => (mem_sweep hsorted).trans (maximal_congr h)

variable {a b : List Scope}

/-- **The merge of two sorted lists is the normal form of the two together.** -/
theorem mergeNormal_eq (ha : a.Pairwise fun x y => ordered x y = true)
    (hb : b.Pairwise fun x y => ordered x y = true) : mergeNormal a b = normalize (a ++ b) := by
  refine sweep_eq_normalize ?_ fun s => List.mem_merge.trans List.mem_append.symm
  exact @List.pairwise_merge _ ordered (fun _ _ _ => ordered_trans) ordered_total a b ha hb

/-- The merge of two lists in normal form covers what both cover. -/
theorem IsNormal.covers_mergeNormal_iff (ha : IsNormal a) (hb : IsNormal b) {c : List Scope} :
    Covers c (mergeNormal a b) ↔ Covers c a ∧ Covers c b := by
  rw [mergeNormal_eq ha.sorted hb.sorted, covers_normalize_iff, covers_append_iff]

theorem IsNormal.mergeNormal (ha : IsNormal a) (hb : IsNormal b) :
    IsNormal (Scope.mergeNormal a b) := by
  rw [mergeNormal_eq ha.sorted hb.sorted]
  exact isNormal_normalize (a ++ b)

end Scope

open Scope

/-! ### The lattice of scope sets -/

/-- A scope set, as a list in normal form. -/
def ScopeSet : Type := {a : List Scope // IsNormal a}

namespace ScopeSet

/-- A scope set is below those that grant at least as much. -/
instance : PartialOrder ScopeSet where
  le a b := Covers b.1 a.1
  le_refl a := Covers.refl a.1
  le_trans _ _ _ hab hbc := hbc.trans hab
  le_antisymm a b hab hba := Subtype.ext <| by
    rw [← a.2.normalize_eq, ← b.2.normalize_eq]
    exact normalize_eq_of_covers hba hab

/-- **Merging is the least upper bound.** -/
instance : SemilatticeSup ScopeSet where
  sup a b := ⟨mergeNormal a.1 b.1, a.2.mergeNormal b.2⟩
  le_sup_left a b := ((a.2.covers_mergeNormal_iff b.2).1 (Covers.refl _)).1
  le_sup_right a b := ((a.2.covers_mergeNormal_iff b.2).1 (Covers.refl _)).2
  sup_le a b _ hac hbc := (a.2.covers_mergeNormal_iff b.2).2 ⟨hac, hbc⟩

instance : OrderBot ScopeSet where
  bot := ⟨[], .nil, nofun⟩
  bot_le _ := nofun

instance : OrderTop ScopeSet where
  top := ⟨[star], isNormal_normalize [star]⟩
  le_top _ := fun s _ => ⟨star, List.mem_singleton_self star, implies_star s⟩

end ScopeSet

namespace Scope

/-- **Merging is normalizing the union.**  On sorted lists, in normal form or not, the merge is the
normal form of the two lists together.  So on lists in normal form it is commutative, associative
and idempotent, the empty list is its unit, and `*` alone absorbs everything. -/
theorem mergeNormal_union :
    (∀ a b : List Scope, (a.Pairwise fun x y => ordered x y = true) →
      (b.Pairwise fun x y => ordered x y = true) → mergeNormal a b = normalize (a ++ b)) ∧
    ∀ a b c : List Scope, IsNormal a → IsNormal b → IsNormal c →
      mergeNormal a b = mergeNormal b a ∧
      mergeNormal (mergeNormal a b) c = mergeNormal a (mergeNormal b c) ∧
      mergeNormal a a = a ∧
      mergeNormal a [] = a ∧ mergeNormal [] a = a ∧
      mergeNormal a [star] = [star] ∧ mergeNormal [star] a = [star] := by
  refine ⟨fun a b => mergeNormal_eq, fun a b c ha hb hc => ?_⟩
  -- the laws of a least upper bound, between the three lists as scope sets
  let x : ScopeSet := ⟨a, ha⟩
  let y : ScopeSet := ⟨b, hb⟩
  let z : ScopeSet := ⟨c, hc⟩
  exact ⟨congrArg Subtype.val (sup_comm x y), congrArg Subtype.val (sup_assoc x y z),
    congrArg Subtype.val (sup_idem x), congrArg Subtype.val (sup_bot_eq x),
    congrArg Subtype.val (bot_sup_eq x), congrArg Subtype.val (sup_top_eq x),
    congrArg Subtype.val (top_sup_eq x)⟩

/-- Two sorted lists with a scope in common, the second with a scope that the first one's wildcard
scope implies; and three scope sets. -/
theorem mergeNormal_union_desk :
    mergeNormal ["desk*".toList, "hall".toList] ["desk7".toList, "hall".toList] =
        normalize ["desk*".toList, "hall".toList, "desk7".toList, "hall".toList] ∧
      mergeNormal (mergeNormal ["desk*".toList] ["desk7".toList]) ["hall".toList] =
        mergeNormal ["desk*".toList] (mergeNormal ["desk7".toList] ["hall".toList]) :=
  ⟨mergeNormal_union.1 _ _ (by decide) (by decide),
    (mergeNormal_union.2 _ _ _ (by decide) (by decide) (by decide)).2.1⟩

end Scope

end DelegatedScopes
