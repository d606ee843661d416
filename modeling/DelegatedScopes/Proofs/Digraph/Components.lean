import DelegatedScopes.Proofs.Digraph
import Mathlib.Data.List.Dedup

/-!
# Finite directed graphs — strongly connected components

* `Digraph.IsComponents`: the strongly connected components of a graph.
* `Digraph.isComponents_components`: every graph has them.
* `Digraph.IsComponents.mem_onCycles`: the nodes that lie on a cycle are those whose component has
  another node, and those with an edge to themselves.
* `Digraph.IsComponents.exists_common_iff`: an edge stays within a component just when its end leads
  back to its start.

A component of one node says nothing about cycles: the node may have an edge to itself or none.
-/

namespace DelegatedScopes.Digraph

open Relation

variable {n : Nat} {g : Digraph n} {parts : List (List (Fin n))}

/-- There is an edge. -/
def Edge (g : Digraph n) (i j : Fin n) : Prop := g.hasEdge i j = true

/-! ### Components -/

/-- The strongly connected components of a graph: each node stands in one of them, and just once;
and the nodes of a component are those that one of them reaches and is reached from. -/
structure IsComponents (g : Digraph n) (parts : List (List (Fin n))) : Prop where
  nodes : parts.flatten.Perm (List.finRange n)
  linked : ∀ part ∈ parts, ∀ i ∈ part, ∀ j,
    j ∈ part ↔ ReflTransGen g.Edge i j ∧ ReflTransGen g.Edge j i

/-- The closure knows what can be reached in any number of steps. -/
theorem reflTransGen_iff_closure {i j : Fin n} :
    ReflTransGen g.Edge i j ↔ j = i ∨ g.closure.hasEdge i j = true := by
  rw [reflTransGen_iff_eq_or_transGen, hasEdge_closure]
  rfl

instance (i j : Fin n) : Decidable (ReflTransGen g.Edge i j) :=
  decidable_of_iff _ reflTransGen_iff_closure.symm

instance : Decidable (g.IsComponents parts) :=
  decidable_of_iff (parts.flatten.Perm (List.finRange n) ∧ ∀ part ∈ parts, ∀ i ∈ part, ∀ j,
      j ∈ part ↔ ReflTransGen g.Edge i j ∧ ReflTransGen g.Edge j i)
    ⟨fun h => ⟨h.1, h.2⟩, fun h => ⟨h.nodes, h.linked⟩⟩

/-- The nodes of the components that have more than one, and the nodes with an edge to
themselves. -/
def onCycles (g : Digraph n) (parts : List (List (Fin n))) : List (Fin n) :=
  parts.flatMap fun part => part.filter fun i => decide (1 < part.length) || g.hasEdge i i

theorem exists_mem_ne_iff {α : Type} {l : List α} (h : l.Nodup) {a : α} (ha : a ∈ l) :
    (∃ b ∈ l, b ≠ a) ↔ 1 < l.length := by
  rcases l with _ | ⟨x, _ | ⟨y, l⟩⟩
  · cases ha
  · simp [List.mem_singleton.1 ha]
  · have hne : x ≠ y := by
      rintro rfl
      simp at h
    refine iff_of_true ?_ (by simp)
    by_cases hx : x = a
    · exact ⟨y, by simp, fun hy => hne (hx.trans hy.symm)⟩
    · exact ⟨x, by simp, hx⟩

namespace IsComponents

theorem nodup (h : g.IsComponents parts) : parts.flatten.Nodup :=
  h.nodes.nodup_iff.2 (List.nodup_finRange n)

theorem exists_mem (h : g.IsComponents parts) (i : Fin n) : ∃ part ∈ parts, i ∈ part :=
  List.mem_flatten.1 (h.nodes.mem_iff.2 (List.mem_finRange i))

/-- **A node is on a cycle when its component has another node, or it has an edge to itself.** -/
theorem transGen_self_iff (h : g.IsComponents parts) {part : List (Fin n)} (hpart : part ∈ parts)
    {i : Fin n} (hi : i ∈ part) :
    TransGen g.Edge i i ↔ 1 < part.length ∨ g.hasEdge i i = true := by
  rw [← exists_mem_ne_iff ((List.nodup_flatten.1 h.nodup).1 part hpart) hi]
  constructor
  · intro hcycle
    obtain ⟨j, hij, hji⟩ := TransGen.head'_iff.1 hcycle
    by_cases hne : j = i
    · exact .inr (hne ▸ hij)
    · exact .inl ⟨j, (h.linked part hpart i hi j).2 ⟨.single hij, hji⟩, hne⟩
  · rintro (⟨j, hj, hne⟩ | hself)
    · obtain ⟨hij, hji⟩ := (h.linked part hpart i hi j).1 hj
      have hij : TransGen g.Edge i j := (reflTransGen_iff_eq_or_transGen.1 hij).resolve_left hne
      exact hij.trans_left hji
    · exact .single hself

/-- **The nodes that are found are those on cycles**, whatever list of components is used. -/
theorem mem_onCycles (h : g.IsComponents parts) {i : Fin n} :
    i ∈ g.onCycles parts ↔ TransGen g.Edge i i := by
  simp only [onCycles, List.mem_flatMap, List.mem_filter, Bool.or_eq_true, decide_eq_true_eq]
  constructor
  · rintro ⟨part, hpart, hi, hcycle⟩
    exact (h.transGen_self_iff hpart hi).2 hcycle
  · intro hcycle
    obtain ⟨part, hpart, hi⟩ := h.exists_mem i
    exact ⟨part, hpart, hi, (h.transGen_self_iff hpart hi).1 hcycle⟩

/-- No node is found twice. -/
theorem nodup_onCycles (h : g.IsComponents parts) : (g.onCycles parts).Nodup := by
  obtain ⟨hnodup, hdisjoint⟩ := List.nodup_flatten.1 h.nodup
  refine List.nodup_flatMap.2 ⟨fun part hpart => (hnodup part hpart).filter _, ?_⟩
  refine hdisjoint.imp fun hab => ?_
  exact fun i hi hi' => hab (List.mem_of_mem_filter hi) (List.mem_of_mem_filter hi')

/-- Along an edge, two nodes are in one component when the second leads back to the first. -/
theorem exists_common_iff (h : g.IsComponents parts) {i j : Fin n} (hij : g.Edge i j) :
    (∃ part ∈ parts, i ∈ part ∧ j ∈ part) ↔ TransGen g.Edge j i := by
  constructor
  · rintro ⟨part, hpart, hi, hj⟩
    obtain ⟨-, hji⟩ := (h.linked part hpart i hi j).1 hj
    rcases reflTransGen_iff_eq_or_transGen.1 hji with rfl | hji
    · exact .single hij
    · exact hji
  · intro hji
    obtain ⟨part, hpart, hi⟩ := h.exists_mem i
    exact ⟨part, hpart, hi, (h.linked part hpart i hi j).2 ⟨.single hij, hji.to_reflTransGen⟩⟩

end IsComponents

/-! ### Finding them -/

/-- The nodes that a node reaches and is reached from. -/
def component (g : Digraph n) (i : Fin n) : List (Fin n) :=
  (List.finRange n).filter fun j => ReflTransGen g.Edge i j ∧ ReflTransGen g.Edge j i

/-- The components of all nodes, without repetition. -/
def components (g : Digraph n) : List (List (Fin n)) :=
  ((List.finRange n).map g.component).dedup

/-- A component is what can be reached from a node and reaches it. -/
theorem mem_component {i j : Fin n} :
    j ∈ g.component i ↔ ReflTransGen g.Edge i j ∧ ReflTransGen g.Edge j i := by
  simp [component]

theorem mem_component_self (g : Digraph n) (i : Fin n) : i ∈ g.component i :=
  mem_component.2 ⟨.refl, .refl⟩

theorem component_eq_of_mem {i j : Fin n} (h : j ∈ g.component i) :
    g.component j = g.component i := by
  obtain ⟨hij, hji⟩ := mem_component.1 h
  refine List.filter_congr fun k _ => decide_eq_decide.2 ?_
  exact ⟨fun hk => ⟨hij.trans hk.1, hk.2.trans hji⟩, fun hk => ⟨hji.trans hk.1, hk.2.trans hij⟩⟩

theorem mem_components {part : List (Fin n)} :
    part ∈ g.components ↔ ∃ i, g.component i = part := by
  simp [components]

/-- **Every graph has strongly connected components.** -/
theorem isComponents_components (g : Digraph n) : g.IsComponents g.components where
  nodes := by
    have hnodup : g.components.flatten.Nodup := by
      refine List.nodup_flatten.2 ⟨fun part hpart => ?_, ?_⟩
      · obtain ⟨i, rfl⟩ := mem_components.1 hpart
        exact (List.nodup_finRange n).filter _
      · -- a node of two components has each of them for its own
        refine (List.nodup_dedup _).imp_of_mem fun {part other} hpart hother hne k hk hk' => ?_
        obtain ⟨i, rfl⟩ := mem_components.1 hpart
        obtain ⟨j, rfl⟩ := mem_components.1 hother
        exact hne ((component_eq_of_mem hk).symm.trans (component_eq_of_mem hk'))
    refine (List.perm_ext_iff_of_nodup hnodup (List.nodup_finRange n)).2 fun i => ?_
    have hi : i ∈ g.components.flatten :=
      List.mem_flatten.2 ⟨g.component i, mem_components.2 ⟨i, rfl⟩, g.mem_component_self i⟩
    exact iff_of_true hi (List.mem_finRange i)
  linked part hpart i hi j := by
    obtain ⟨k, rfl⟩ := mem_components.1 hpart
    rw [← component_eq_of_mem hi, mem_component]

end DelegatedScopes.Digraph
