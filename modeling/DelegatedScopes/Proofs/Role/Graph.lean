import DelegatedScopes.Proofs.Digraph
import DelegatedScopes.Proofs.Role.Effective
import DelegatedScopes.Proofs.Scope.Monotone
import DelegatedScopes.Role.Graph
import Mathlib.Data.List.Nodup

/-!
# Roles — captures in the graph of carriers

* `RoleGraph.Passes`: one carrier hands its capture on to another, in any part of the graph.
* `RoleGraph.transGen_passes_of_prefix`: what can happen to a capture can also happen when less of
  it is known.
* `RoleGraph.transGen_moves_of_loop`: a capture that comes back to its carrier does so within the
  cycles of the carrier.
* `Role.SymbolicStep`: the same step between roles, and `Role.LoopFree`: no carrier comes back to
  itself in such steps.  `RoleGraph.passes_iff` and `RoleGraph.loop_iff` carry steps and loops
  over.
-/

namespace DelegatedScopes

open Scope Relation

/-- Less of the capture known, a template grants more. -/
theorem Template.implies_render_startingWith (t : Template) {c d : Text} (h : c <+: d) :
    implies (t.render (.startingWith c)) (t.render (.startingWith d)) = true := by
  cases ht : t.hasPlaceholder with
  | false =>
      rw [render_of_not_hasPlaceholder ht, render_of_not_hasPlaceholder ht]
      exact implies_refl _
  | true =>
      rw [render_open ht rfl, render_open ht rfl, implies_append_star_iff, literal_append_star]
      exact (List.prefix_append_right_inj t.lead).2 h

namespace Carrier

/-- What is passed on is what a template captures of the other id when it is rendered. -/
theorem mem_passes {c target : Carrier} {known d : Text} :
    d ∈ c.passes known target ↔ ∃ t ∈ c.templates, ∃ m,
      activate target.id (t.render (.startingWith known)) = some m ∧ m.capture = d := by
  simp only [passes, List.mem_filterMap, Option.map_eq_some_iff]

/-- Less of the capture known, less of it arrives, but it arrives wherever it did. -/
theorem passes_of_prefix {c target : Carrier} {known known₀ d : Text} (h : known₀ <+: known)
    (hd : d ∈ c.passes known target) : ∃ d₀, d₀ <+: d ∧ d₀ ∈ c.passes known₀ target := by
  obtain ⟨t, ht, m, hm, rfl⟩ := mem_passes.1 hd
  obtain ⟨m₀, hm₀, hp⟩ := activate_mono (t.implies_render_startingWith h) hm
  exact ⟨m₀.capture, hp, mem_passes.2 ⟨t, ht, m₀, hm₀, rfl⟩⟩

/-- A carrier feeds another if it passes anything to it at all. -/
theorem feeds_iff {c target : Carrier} : c.feeds target = true ↔ ∃ d, d ∈ c.passes [] target := by
  rw [feeds, Bool.not_eq_true', List.isEmpty_eq_false_iff_exists_mem]

end Carrier

namespace RoleGraph

variable {g : RoleGraph}

/-- The carrier at a node. -/
def carrierAt (g : RoleGraph) : g.Node → Carrier
  | ⟨i, _⟩ => g.carriers[i]

/-- One carrier hands its capture on to another. -/
def Passes (u v : g.Visit) : Prop :=
  v.capture ∈ (g.carrierAt u.node).passes u.capture (g.carrierAt v.node)

/-- With less of a capture known, less of it is handed on, to the same node. -/
theorem Passes.of_prefix {i j : g.Node} {c c₀ d : Text} (hc : c₀ <+: c)
    (h : Passes (⟨i, c⟩ : g.Visit) ⟨j, d⟩) :
    ∃ d₀, d₀ <+: d ∧ Passes (⟨i, c₀⟩ : g.Visit) ⟨j, d₀⟩ :=
  Carrier.passes_of_prefix hc h

/-- **What can happen to a capture can also happen when less of it is known.** -/
theorem transGen_passes_of_prefix {u v : g.Visit} (h : TransGen Passes u v) {c₀ : Text}
    (hc : c₀ <+: u.capture) :
    ∃ d₀, d₀ <+: v.capture ∧ TransGen Passes (⟨u.node, c₀⟩ : g.Visit) ⟨v.node, d₀⟩ := by
  induction h with
  | single h =>
      obtain ⟨d₀, hd, hp⟩ := h.of_prefix hc
      exact ⟨d₀, hd, .single hp⟩
  | tail _ h ih =>
      obtain ⟨m₀, hm, t⟩ := ih
      obtain ⟨d₀, hd, hp⟩ := h.of_prefix hm
      exact ⟨d₀, hd, t.tail hp⟩

/-! ### Cycles -/

/-- The edges are where a capture can be handed on, and the paths are those along edges. -/
structure Lawful (g : RoleGraph) : Prop where
  edges : ∀ i j, g.edges.hasEdge i j = true ↔
    ∃ d, Passes (⟨i, []⟩ : g.Visit) ⟨j, d⟩
  paths : ∀ i j, g.paths.hasEdge i j = true ↔ TransGen (fun a b => g.edges.hasEdge a b = true) i j

theorem lawful_ofCarriers (carriers : Array Carrier) : (ofCarriers carriers).Lawful where
  edges i j := by
    have h : (ofCarriers carriers).edges.hasEdge i j =
        ((ofCarriers carriers).carrierAt i).feeds ((ofCarriers carriers).carrierAt j) :=
      Digraph.hasEdge_ofEdges _ i j
    rw [h]
    exact Carrier.feeds_iff
  paths i j := Digraph.hasEdge_closure _ i j

theorem Lawful.hasEdge_of_passes (hg : g.Lawful) {u v : g.Visit} (h : Passes u v) :
    g.edges.hasEdge u.node v.node = true := by
  obtain ⟨d₀, -, hp⟩ := h.of_prefix List.nil_prefix
  exact (hg.edges _ _).2 ⟨d₀, hp⟩

/-- The moves of a walk are the passes along the edges from which there is a way back. -/
theorem mem_moves {u v : g.Visit} :
    v ∈ g.moves u ↔ Passes u v ∧ g.edges.hasEdge u.node v.node = true ∧
      g.paths.hasEdge v.node u.node = true := by
  simp only [moves, targets, List.mem_flatMap, List.mem_filter, List.mem_finRange, true_and,
    List.mem_map, Bool.and_eq_true]
  constructor
  · rintro ⟨j, hj, d, hd, rfl⟩
    exact ⟨hd, hj⟩
  · rintro ⟨hp, hj⟩
    exact ⟨v.node, hj, v.capture, hp, rfl⟩

/-- A path whose steps, on their way from its start to its end, are steps of another kind. -/
theorem transGen_of_steps {α : Type} {r s : α → α → Prop} {a b : α} (h : TransGen r a b) :
    (∀ u v, ReflTransGen r a u → r u v → ReflTransGen r v b → s u v) → TransGen s a b := by
  induction h with
  | single h => exact fun hs => .single (hs _ _ .refl h .refl)
  | tail t h ih =>
      intro hs
      refine .tail (ih fun u v hau huv hvm => hs u v hau huv (hvm.tail h)) ?_
      exact hs _ _ t.to_reflTransGen h .refl

/-- **A capture that comes back to its carrier does so within the cycles of the carrier.** -/
theorem Lawful.transGen_moves_of_loop (hg : g.Lawful) {i : g.Node} {c d : Text}
    (h : TransGen Passes (⟨i, c⟩ : g.Visit) ⟨i, d⟩) :
    TransGen (fun u v => v ∈ g.moves u) (⟨i, c⟩ : g.Visit) ⟨i, d⟩ := by
  have hnode : ∀ {u v : g.Visit}, Passes u v → g.edges.hasEdge u.node v.node = true :=
    hg.hasEdge_of_passes
  refine transGen_of_steps h fun u v hu huv hv => mem_moves.2 ⟨huv, hnode huv, ?_⟩
  -- from `v` on to the end, once round the loop, and on to `u`
  have hvi := hv.lift (p := fun a b => g.edges.hasEdge a b = true) Visit.node fun _ _ => hnode
  have hii := h.lift (p := fun a b => g.edges.hasEdge a b = true) Visit.node fun _ _ => hnode
  have hiu := hu.lift (p := fun a b => g.edges.hasEdge a b = true) Visit.node fun _ _ => hnode
  exact (hg.paths _ _).2 ((TransGen.trans_right hvi hii).trans_left hiu)

/-- A carrier that a capture comes back to is on a cycle. -/
theorem Lawful.mem_cyclic (hg : g.Lawful) {i : g.Node} {c d : Text}
    (h : TransGen Passes (⟨i, c⟩ : g.Visit) ⟨i, d⟩) : i ∈ g.cyclic := by
  have hii := h.lift (p := fun a b => g.edges.hasEdge a b = true) Visit.node
    fun _ _ => hg.hasEdge_of_passes
  simpa [cyclic] using (hg.paths _ _).2 hii

end RoleGraph

/-! ### Carriers as roles -/

namespace Role

variable {roles : List Role}

instance (r : Role) : Decidable r.IsCarrier :=
  inferInstanceAs (Decidable (_ ∧ ∃ t ∈ r.templates, t.hasPlaceholder = true))

/-- The carriers among the definitions that count, by ascending id. -/
def carrierRoles (roles : List Role) : List Role := (effective roles).filter fun r => r.IsCarrier

theorem mem_carrierRoles {r : Role} :
    r ∈ carrierRoles roles ↔ r ∈ effective roles ∧ r.IsCarrier := by
  simp [carrierRoles]

theorem filterMap_ofRole? (l : List Role) :
    l.filterMap Carrier.ofRole? = (l.filter fun r => r.IsCarrier).map toCarrier := by
  induction l with
  | nil => rfl
  | cons r l ih =>
      by_cases h : r.IsCarrier
      · have hr : Carrier.ofRole? r = some r.toCarrier := ofRole?_eq_some_iff.2 ⟨h, rfl⟩
        rw [List.filterMap_cons_some hr, ih, List.filter_cons_of_pos (by simpa using h),
          List.map_cons]
      · have hr : Carrier.ofRole? r = none :=
          Option.eq_none_iff_forall_ne_some.2 fun c hc => h (ofRole?_eq_some_iff.1 hc).1
        rw [List.filterMap_cons_none hr, ih, List.filter_cons_of_neg (by simpa using h)]

/-- **A symbolic step** leads from a carrier, of whose capture the beginning `u.2` is known, to
another one: a placeholder template of the first, rendered with what is known, activates the
second, and what it captures is known there. -/
def SymbolicStep (roles : List Role) (u v : Role × Text) : Prop :=
  u.1 ∈ carrierRoles roles ∧ v.1 ∈ carrierRoles roles ∧
    ∃ t ∈ u.1.templates, t.hasPlaceholder = true ∧ ∃ m,
      activate v.1.id (t.render (.startingWith u.2)) = some m ∧ v.2 = m.capture

/-- No carrier comes back to itself in symbolic steps, starting with nothing known of its
capture. -/
def LoopFree (roles : List Role) : Prop :=
  ∀ r ∈ carrierRoles roles, ∀ c, ¬ TransGen (SymbolicStep roles) (r, []) (r, c)

/-- A symbolic step is what one carrier passes to another. -/
theorem symbolicStep_iff_passes {u v : Role × Text} :
    SymbolicStep roles u v ↔ u.1 ∈ carrierRoles roles ∧ v.1 ∈ carrierRoles roles ∧
      v.2 ∈ u.1.toCarrier.passes u.2 v.1.toCarrier := by
  simp only [SymbolicStep, Carrier.mem_passes, toCarrier, List.mem_filter, and_assoc,
    @eq_comm _ v.2]

end Role

namespace RoleGraph
open Role

variable {roles : List Role}

/-- The graph of the carriers of a list of roles. -/
def carrierGraph (roles : List Role) : RoleGraph :=
  ofCarriers ((carrierRoles roles).map toCarrier).toArray

/-- A graph is made of roles just when each definition is valid. -/
theorem ofRoles_eq_ok_iff {g : RoleGraph} :
    ofRoles roles = .ok g ↔
      (∀ r ∈ effective roles, r.validate = .ok ()) ∧ carrierGraph roles = g := by
  rw [ofRoles, filterMap_ofRole?, ← forM_eq_ok_iff]
  cases h : (effective roles).forM validate with
  | error e => simp
  | ok u => simp [carrierGraph, carrierRoles]

theorem size_carrierGraph (roles : List Role) :
    (carrierGraph roles).carriers.size = (carrierRoles roles).length := by
  simp [carrierGraph, ofCarriers]

/-- The role that is a carrier of the graph. -/
def roleAt (i : (carrierGraph roles).Node) : Role :=
  (carrierRoles roles).get (i.cast (size_carrierGraph roles))

theorem carrierAt_eq (i : (carrierGraph roles).Node) :
    (carrierGraph roles).carrierAt i = (roleAt i).toCarrier :=
  List.getElem_map toCarrier

theorem roleAt_mem (i : (carrierGraph roles).Node) : roleAt i ∈ carrierRoles roles :=
  List.get_mem _ _

theorem exists_roleAt {r : Role} (h : r ∈ carrierRoles roles) :
    ∃ i : (carrierGraph roles).Node, roleAt i = r := by
  obtain ⟨n, rfl⟩ := List.get_of_mem h
  exact ⟨n.cast (size_carrierGraph roles).symm, rfl⟩

/-- No role stands at two nodes. -/
theorem roleAt_inj {i j : (carrierGraph roles).Node} (h : roleAt i = roleAt j) : i = j := by
  have hnodup : (carrierRoles roles).Nodup := (nodup_effective roles).filter _
  have hn := congrArg Fin.val (hnodup.injective_get h)
  exact Fin.ext hn

/-- The role and the capture of a visit. -/
def state (v : (carrierGraph roles).Visit) : Role × Text := (roleAt v.node, v.capture)

/-- A visit passes to another just when there is a symbolic step between them. -/
theorem passes_iff {u v : (carrierGraph roles).Visit} :
    Passes u v ↔ SymbolicStep roles (state u) (state v) := by
  rw [symbolicStep_iff_passes, Passes, carrierAt_eq, carrierAt_eq]
  exact ⟨fun h => ⟨roleAt_mem _, roleAt_mem _, h⟩, fun h => h.2.2⟩

theorem transGen_symbolicStep {u v : (carrierGraph roles).Visit} (h : TransGen Passes u v) :
    TransGen (SymbolicStep roles) (state u) (state v) :=
  h.lift state fun _ _ => passes_iff.1

/-- **Symbolic steps are steps of the graph.** -/
theorem exists_of_transGen_symbolicStep {u : (carrierGraph roles).Visit} {y : Role × Text}
    (h : TransGen (SymbolicStep roles) (state u) y) :
    ∃ v : (carrierGraph roles).Visit, state v = y ∧ TransGen Passes u v := by
  have hstate : ∀ {x y : Role × Text}, SymbolicStep roles x y →
      ∃ v : (carrierGraph roles).Visit, state v = y := by
    intro x y h
    obtain ⟨i, hi⟩ := exists_roleAt h.2.1
    exact ⟨⟨i, y.2⟩, Prod.ext hi rfl⟩
  induction h with
  | single h =>
      obtain ⟨v, rfl⟩ := hstate h
      exact ⟨v, rfl, .single (passes_iff.2 h)⟩
  | tail _ h ih =>
      obtain ⟨w, rfl, t⟩ := ih
      obtain ⟨v, rfl⟩ := hstate h
      exact ⟨v, rfl, t.tail (passes_iff.2 h)⟩

/-- A role comes back to itself in symbolic steps when its carrier does in the graph. -/
theorem loop_iff {i : (carrierGraph roles).Node} {c : Text} :
    (∃ d, TransGen (SymbolicStep roles) (roleAt i, c) (roleAt i, d)) ↔
      ∃ d, TransGen Passes (⟨i, c⟩ : (carrierGraph roles).Visit) ⟨i, d⟩ := by
  constructor
  · rintro ⟨d, h⟩
    obtain ⟨⟨j, d'⟩, hv, t⟩ := exists_of_transGen_symbolicStep (u := ⟨i, c⟩) h
    obtain rfl := roleAt_inj (Prod.ext_iff.1 hv).1
    exact ⟨d', t⟩
  · rintro ⟨d, h⟩
    exact ⟨d, transGen_symbolicStep h⟩

end RoleGraph

end DelegatedScopes
