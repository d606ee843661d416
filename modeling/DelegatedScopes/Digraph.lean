/-!
# Finite directed graphs

A graph on the nodes `0` to `n - 1`, each node with the set of its successors.  A set of nodes is
the number whose binary digits are one at its members.

* `Digraph.ofEdges`, `Digraph.hasEdge`: building a graph from its edges, and asking for one.
* `Digraph.closure`: the graph with an edge for every non-empty path.

The closure allows the nodes one at a time as inner nodes of a path.  Once node `k` is allowed
there is an edge from `i` to `j` when there was one before, or when there was one from `i` to `k`
and one from `k` to `j`.
-/

namespace DelegatedScopes

/-- A directed graph: each node with the set of its successors. -/
structure Digraph (n : Nat) where
  successors : Vector Nat n

namespace Digraph

/-- The set of the numbers below `n` with a property. -/
def collect (p : Nat → Bool) : Nat → Nat
  | 0 => 0
  | n + 1 => collect p n ||| (p n).toNat <<< n

theorem testBit_collect (p : Nat → Bool) (n i : Nat) :
    (collect p n).testBit i = (decide (i < n) && p i) := by
  induction n with
  | zero => simp [collect]
  | succ n ih =>
    rw [collect, Nat.testBit_or, ih, Nat.testBit_shiftLeft, Nat.testBit_bool_toNat]
    rcases Nat.lt_trichotomy i n with h | rfl | h
    · simp [h, Nat.not_le.2 h, Nat.lt_succ_of_lt h]
    · simp
    · have h₁ : ¬ i < n := Nat.not_lt.2 (Nat.le_of_lt h)
      have h₂ : ¬ i < n + 1 := Nat.not_lt.2 h
      simp [h₁, h₂, Nat.sub_ne_zero_of_lt h]

/-- The graph with the given edges. -/
def ofEdges {n : Nat} (edge : Fin n → Fin n → Bool) : Digraph n :=
  ⟨Vector.ofFn fun i => collect (fun j => if h : j < n then edge i ⟨j, h⟩ else false) n⟩

/-- Whether there is an edge from `i` to `j`. -/
def hasEdge {n : Nat} (g : Digraph n) (i j : Fin n) : Bool := g.successors[i].testBit j

@[simp] theorem hasEdge_ofEdges {n : Nat} (edge : Fin n → Fin n → Bool) (i j : Fin n) :
    (ofEdges edge).hasEdge i j = edge i j := by
  simp [hasEdge, ofEdges, testBit_collect]

/-- Allows `k` as an inner node of a path. -/
def through {n : Nat} (g : Digraph n) (k : Fin n) : Digraph n :=
  let onward := g.successors[k]
  ⟨g.successors.map fun next => if next.testBit k then next ||| onward else next⟩

theorem hasEdge_through {n : Nat} (g : Digraph n) (k i j : Fin n) :
    (g.through k).hasEdge i j = (g.hasEdge i j || (g.hasEdge i k && g.hasEdge k j)) := by
  cases h : g.successors[i].testBit k <;> simp_all [hasEdge, through]

/-- The graph with an edge for every non-empty path. -/
def closure {n : Nat} (g : Digraph n) : Digraph n := (List.finRange n).foldl through g

end Digraph

end DelegatedScopes
