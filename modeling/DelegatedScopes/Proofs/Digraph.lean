import DelegatedScopes.Digraph
import Mathlib.Logic.Relation

/-!
# Finite directed graphs — the closure

* `Digraph.hasEdge_closure`: the closure of a graph has an edge wherever the graph has a non-empty
  path.

`PathVia` are the paths whose inner nodes are allowed.  Allowing one more node joins two paths
there (`pathVia_allow_iff`), which is what one round of the algorithm computes.
-/

namespace DelegatedScopes.Digraph

/-- A non-empty path whose inner nodes are all allowed. -/
inductive PathVia {α : Type} (edge : α → α → Prop) (allowed : α → Prop) : α → α → Prop
  | edge {i j : α} (h : edge i j) : PathVia edge allowed i j
  | cons {i k j : α} (h : edge i k) (hk : allowed k) (t : PathVia edge allowed k j) :
      PathVia edge allowed i j

namespace PathVia

variable {α : Type} {edge : α → α → Prop} {allowed allowed' : α → Prop}

theorem mono (hle : ∀ k, allowed k → allowed' k) {i j : α} (h : PathVia edge allowed i j) :
    PathVia edge allowed' i j := by
  induction h with
  | edge h => exact .edge h
  | cons h hk _ ih => exact .cons h (hle _ hk) ih

/-- Two paths join at an allowed node. -/
theorem join {i k j : α} (h : PathVia edge allowed i k) (hk : allowed k)
    (t : PathVia edge allowed k j) : PathVia edge allowed i j := by
  induction h with
  | edge h => exact .cons h hk t
  | cons h hm _ ih => exact .cons h hm (ih hk t)

/-- **With one more node allowed**, a path is one that did without it, or two joined there. -/
theorem allow_iff {k i j : α} :
    PathVia edge (fun m => allowed m ∨ m = k) i j ↔
      PathVia edge allowed i j ∨ PathVia edge allowed i k ∧ PathVia edge allowed k j := by
  constructor
  · intro h
    induction h with
    | edge h => exact .inl (.edge h)
    | @cons i m j h hm _ ih =>
        rcases hm with hm | rfl
        · rcases ih with t | ⟨t, u⟩
          · exact .inl (.cons h hm t)
          · exact .inr ⟨.cons h hm t, u⟩
        · -- the path comes to the new node at once, and does not need it again
          rcases ih with t | ⟨-, t⟩
          · exact .inr ⟨.edge h, t⟩
          · exact .inr ⟨.edge h, t⟩
  · rintro (h | ⟨h, t⟩)
    · exact h.mono fun m hm => .inl hm
    · exact (h.mono fun m hm => .inl hm).join (.inr rfl) (t.mono fun m hm => .inl hm)

theorem transGen_iff {i j : α} (hall : ∀ k, allowed k) :
    PathVia edge allowed i j ↔ Relation.TransGen edge i j := by
  constructor
  · intro h
    induction h with
    | edge h => exact .single h
    | cons h _ _ ih => exact .head h ih
  · intro h
    induction h with
    | single h => exact .edge h
    | tail _ h ih => exact ih.join (hall _) (.edge h)

end PathVia

/-- What the rounds compute: the nodes gone through are allowed. -/
theorem hasEdge_foldl_through {n : Nat} {edge : Fin n → Fin n → Prop} (ks : List (Fin n)) :
    ∀ {g : Digraph n} {allowed : Fin n → Prop},
      (∀ i j, g.hasEdge i j = true ↔ PathVia edge allowed i j) →
      ∀ i j, (ks.foldl through g).hasEdge i j = true ↔
        PathVia edge (fun m => allowed m ∨ m ∈ ks) i j := by
  induction ks with
  | nil =>
      intro g allowed h i j
      simpa using h i j
  | cons k ks ih =>
      intro g allowed h i j
      have hround : ∀ i j, (g.through k).hasEdge i j = true ↔
          PathVia edge (fun m => allowed m ∨ m = k) i j := by
        intro i j
        rw [hasEdge_through, Bool.or_eq_true, Bool.and_eq_true, h, h, h, PathVia.allow_iff]
      rw [List.foldl_cons, ih hround]
      simp only [List.mem_cons, or_assoc]

/-- **The closure has an edge for every non-empty path.** -/
theorem hasEdge_closure {n : Nat} (g : Digraph n) (i j : Fin n) :
    g.closure.hasEdge i j = true ↔
      Relation.TransGen (fun a b => g.hasEdge a b = true) i j := by
  have hstart : ∀ i j, g.hasEdge i j = true ↔
      PathVia (fun a b => g.hasEdge a b = true) (fun _ => False) i j := by
    intro i j
    refine ⟨fun h => .edge h, fun h => ?_⟩
    cases h with
    | edge h => exact h
    | cons _ hk _ => exact hk.elim
  rw [closure, hasEdge_foldl_through _ hstart,
    PathVia.transGen_iff fun k => .inr (List.mem_finRange k)]

end DelegatedScopes.Digraph
