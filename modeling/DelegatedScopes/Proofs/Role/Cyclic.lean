import DelegatedScopes.Proofs.Digraph.Components
import DelegatedScopes.Proofs.Role.Cycle
import DelegatedScopes.Proofs.Text

/-!
# Roles — the carriers on cycles

* `Role.Feeds`: an edge between two carriers.
* `Role.feeds_of_symbolicStep`: every symbolic step runs along an edge, whatever is known of the
  capture.
* `RoleGraph.FoundFrom`: what strongly connected components say of the carriers on cycles and of the
  moves of a walk.
* `RoleGraph.cyclicIds_exact`: the check walks from those carriers that a path of edges leads back
  to, by ascending id.

An edge is there when the second carrier is activated with nothing known of the first one's capture.
Less of the capture known, a template grants more, so every activation with some capture known is
one of these: the edges miss no step, and neither do the components, which are made from them.
-/

namespace DelegatedScopes

open Relation Scope

namespace Role

variable {roles : List Role} {r q : Role}

/-- There is an edge from one carrier to another when a placeholder template of the first, rendered
with nothing known of its capture, activates the second. -/
def Feeds (roles : List Role) (r q : Role) : Prop :=
  r ∈ carrierRoles roles ∧ q ∈ carrierRoles roles ∧
    ∃ t ∈ r.templates, t.hasPlaceholder = true ∧
      (activate q.id (t.render (.startingWith []))).isSome = true

/-- An edge is a symbolic step from an empty capture. -/
theorem feeds_iff_symbolicStep : Feeds roles r q ↔ ∃ d, SymbolicStep roles (r, []) (q, d) := by
  simp only [Feeds, SymbolicStep, Option.isSome_iff_exists]
  constructor
  · rintro ⟨hr, hq, t, ht, hp, m, hm⟩
    exact ⟨m.capture, hr, hq, t, ht, hp, m, hm, rfl⟩
  · rintro ⟨-, hr, hq, t, ht, hp, m, hm, -⟩
    exact ⟨hr, hq, t, ht, hp, m, hm⟩

/-- **Every symbolic step runs along an edge**, whatever is known of the capture. -/
theorem feeds_of_symbolicStep {c d : Text} (h : SymbolicStep roles (r, c) (q, d)) :
    Feeds roles r q := by
  obtain ⟨hr, hq, hd⟩ := symbolicStep_iff_passes.1 h
  obtain ⟨d₀, -, hd₀⟩ := Carrier.passes_of_prefix List.nil_prefix hd
  exact feeds_iff_symbolicStep.2 ⟨d₀, symbolicStep_iff_passes.2 ⟨hr, hq, hd₀⟩⟩

end Role

namespace RoleGraph

open Role

variable {roles : List Role}

/-! ### Edges and paths between roles -/

theorem lawful_carrierGraph (roles : List Role) : (carrierGraph roles).Lawful :=
  lawful_ofCarriers _

/-- The edges of the graph are those between the roles at its nodes. -/
theorem edge_iff_feeds {i j : (carrierGraph roles).Node} :
    (carrierGraph roles).edges.Edge i j ↔ Feeds roles (roleAt i) (roleAt j) := by
  rw [Digraph.Edge, (lawful_carrierGraph roles).edges, feeds_iff_symbolicStep]
  exact exists_congr fun d => passes_iff

/-- **Paths of the graph are paths between roles.** -/
theorem transGen_edge_iff {i j : (carrierGraph roles).Node} :
    TransGen (carrierGraph roles).edges.Edge i j ↔
      TransGen (Feeds roles) (roleAt i) (roleAt j) := by
  refine ⟨fun h => h.lift roleAt fun _ _ => edge_iff_feeds.1, fun h => ?_⟩
  -- every role on the way is that of a node
  have hnode : ∀ {q}, TransGen (Feeds roles) (roleAt i) q →
      ∀ {k}, roleAt k = q → TransGen (carrierGraph roles).edges.Edge i k := by
    intro q h
    induction h with
    | single h =>
        rintro k rfl
        exact .single (edge_iff_feeds.2 h)
    | tail _ h ih =>
        rintro k rfl
        obtain ⟨m, hm⟩ := exists_roleAt h.1
        exact (ih hm).tail (edge_iff_feeds.2 (hm ▸ h))
  exact hnode h rfl

/-- The nodes that are found are those on cycles. -/
theorem mem_cyclic_iff {i : (carrierGraph roles).Node} :
    i ∈ (carrierGraph roles).cyclic ↔ TransGen (carrierGraph roles).edges.Edge i i := by
  rw [cyclic, List.mem_filter, (lawful_carrierGraph roles).paths]
  exact and_iff_right (List.mem_finRange i)

/-- **A walk moves on by the symbolic steps that lead to a carrier with a path back.** -/
theorem mem_moves_iff_symbolicStep {u v : (carrierGraph roles).Visit} :
    v ∈ (carrierGraph roles).moves u ↔ SymbolicStep roles (state u) (state v) ∧
      TransGen (Feeds roles) (roleAt v.node) (roleAt u.node) := by
  have hlawful := lawful_carrierGraph roles
  rw [mem_moves, hlawful.paths, ← passes_iff]
  exact and_congr_right fun h =>
    (and_iff_right (hlawful.hasEdge_of_passes h)).trans transGen_edge_iff

/-! ### The order of ids -/

/-- Whether the id of a carrier comes no later than that of another one. -/
def ordered (g : RoleGraph) (i j : g.Node) : Bool := (compare (g.idOf i) (g.idOf j)).isLE

theorem ordered_total (g : RoleGraph) (i j : g.Node) :
    (g.ordered i j || g.ordered j i) = true := by
  have hswap : compare (g.idOf j) (g.idOf i) = (compare (g.idOf i) (g.idOf j)).swap :=
    Std.OrientedCmp.eq_swap
  rw [ordered, ordered, hswap]
  cases compare (g.idOf i) (g.idOf j) <;> rfl

/-- A carrier is known by its id. -/
theorem eq_roleAt {i : (carrierGraph roles).Node} {r : Role} (hr : r ∈ carrierRoles roles)
    (hid : r.id = (carrierGraph roles).idOf i) : r = roleAt i :=
  eq_of_mem_effective (mem_carrierRoles.1 hr).1 (mem_carrierRoles.1 (roleAt_mem i)).1
    (hid.trans (idOf_eq i))

theorem idOf_inj {i j : (carrierGraph roles).Node}
    (h : (carrierGraph roles).idOf i = (carrierGraph roles).idOf j) : i = j :=
  roleAt_inj (eq_roleAt (roleAt_mem i) ((idOf_eq i).symm.trans h))

theorem eq_of_ordered {i j : (carrierGraph roles).Node}
    (hij : (carrierGraph roles).ordered i j = true)
    (hji : (carrierGraph roles).ordered j i = true) : i = j :=
  idOf_inj (Std.LawfulEqCmp.eq_of_compare (Std.OrientedCmp.isLE_antisymm hij hji))

/-- **The carriers on cycles stand by ascending id.** -/
theorem pairwise_cyclic (roles : List Role) :
    (carrierGraph roles).cyclic.Pairwise fun i j =>
      compare ((carrierGraph roles).idOf i) ((carrierGraph roles).idOf j) = .lt := by
  have hsorted : (carrierRoles roles).Pairwise fun q r => compare q.id r.id = .lt :=
    (pairwise_effective roles).filter _
  refine ((List.pairwise_lt_finRange _).filter _).imp fun {i j} hij => ?_
  rw [idOf_eq, idOf_eq]
  exact List.pairwise_iff_get.1 hsorted _ _ hij

/-! ### Components -/

/-- How the carriers on cycles and the moves of a walk are found from strongly connected components:
the carriers of components that have more than one and those with an edge to themselves, sorted by
id; and what is handed on along an edge within a component. -/
structure FoundFrom (g : RoleGraph) (parts : List (List g.Node)) : Prop where
  cyclic : (g.edges.onCycles parts).mergeSort g.ordered = g.cyclic
  moves : ∀ u v : g.Visit, v ∈ g.moves u ↔ Passes u v ∧ g.edges.hasEdge u.node v.node = true ∧
    ∃ part ∈ parts, u.node ∈ part ∧ v.node ∈ part

theorem foundFrom_of_isComponents {parts : List (List (carrierGraph roles).Node)}
    (h : (carrierGraph roles).edges.IsComponents parts) : FoundFrom (carrierGraph roles) parts where
  cyclic := by
    have hnodup : (carrierGraph roles).cyclic.Nodup := (List.nodup_finRange _).filter _
    have hperm : ((carrierGraph roles).edges.onCycles parts).Perm (carrierGraph roles).cyclic :=
      (List.perm_ext_iff_of_nodup h.nodup_onCycles hnodup).2 fun i =>
        h.mem_onCycles.trans mem_cyclic_iff.symm
    have hsorted : (((carrierGraph roles).edges.onCycles parts).mergeSort
        (carrierGraph roles).ordered).Pairwise
          fun i j => (carrierGraph roles).ordered i j = true :=
      List.pairwise_mergeSort (fun _ _ _ => Std.TransCmp.isLE_trans) (ordered_total _) _
    have hascending : (carrierGraph roles).cyclic.Pairwise
        fun i j => (carrierGraph roles).ordered i j = true :=
      (pairwise_cyclic roles).imp fun hlt => by rw [ordered, hlt]; rfl
    exact List.Perm.eq_of_pairwise (fun _ _ _ _ => eq_of_ordered) hsorted hascending
      ((List.mergeSort_perm _ _).trans hperm)
  moves u v := by
    rw [mem_moves]
    refine and_congr_right fun _ => and_congr_right fun hedge => ?_
    rw [h.exists_common_iff hedge]
    exact (lawful_carrierGraph roles).paths _ _

/-! ### The carriers on cycles -/

/-- The ids that are found are those of carriers on cycles. -/
theorem mem_cyclicIds_iff {id : Text} :
    id ∈ (carrierGraph roles).cyclicIds ↔
      ∃ r ∈ carrierRoles roles, r.id = id ∧ TransGen (Feeds roles) r r := by
  rw [cyclicIds, List.mem_map]
  constructor
  · rintro ⟨i, hi, rfl⟩
    exact ⟨roleAt i, roleAt_mem i, (idOf_eq i).symm, transGen_edge_iff.1 (mem_cyclic_iff.1 hi)⟩
  · rintro ⟨r, hr, rfl, hcycle⟩
    obtain ⟨i, rfl⟩ := exists_roleAt hr
    exact ⟨i, mem_cyclic_iff.2 (transGen_edge_iff.2 hcycle), idOf_eq i⟩

/-- **The check walks from exactly the carriers on cycles.**  When the graph of a list of roles is
built, its cyclic ids stand in strictly ascending order of their bytes, and they are the ids of the
carriers from which a non-empty path of edges leads back to themselves.  The edges are those of
`Feeds`.  Every symbolic step, whatever is known of the capture, runs along an edge, and a walk
takes just those steps from which a path leads back.  There are strongly connected components, and
however they are listed, the carriers on cycles and the moves are found from them. -/
theorem cyclicIds_exact {g : RoleGraph} (hg : ofRoles roles = .ok g) :
    (g.cyclicIds.Pairwise fun a b => compare a.utf8 b.utf8 = .lt) ∧
    (∀ id, id ∈ g.cyclicIds ↔
      ∃ r ∈ effective roles, r.IsCarrier ∧ r.id = id ∧ TransGen (Feeds roles) r r) ∧
    (∀ i j, g.edges.hasEdge i j = true ↔
      ∃ r q, r.id = g.idOf i ∧ q.id = g.idOf j ∧ Feeds roles r q) ∧
    (∀ r q c d, SymbolicStep roles (r, c) (q, d) → Feeds roles r q) ∧
    (∀ u v, v ∈ g.moves u ↔ ∃ r q, r.id = g.idOf u.node ∧ q.id = g.idOf v.node ∧
      SymbolicStep roles (r, u.capture) (q, v.capture) ∧ TransGen (Feeds roles) q r) ∧
    (∃ parts, g.edges.IsComponents parts) ∧
      ∀ parts, g.edges.IsComponents parts → FoundFrom g parts := by
  obtain ⟨-, rfl⟩ := ofRoles_eq_ok_iff.1 hg
  refine ⟨?_, fun id => ?_, fun i j => ⟨fun h => ?_, ?_⟩, fun r q c d => feeds_of_symbolicStep,
    fun u v => ⟨fun h => ?_, ?_⟩, ⟨_, Digraph.isComponents_components _⟩,
    fun parts => foundFrom_of_isComponents⟩
  · simp only [cyclicIds, List.pairwise_map, Text.compare_utf8]
    exact pairwise_cyclic roles
  · simp only [mem_cyclicIds_iff, mem_carrierRoles, and_assoc]
  · exact ⟨roleAt i, roleAt j, (idOf_eq i).symm, (idOf_eq j).symm, edge_iff_feeds.1 h⟩
  · rintro ⟨r, q, hr, hq, h⟩
    obtain rfl := eq_roleAt h.1 hr
    obtain rfl := eq_roleAt h.2.1 hq
    exact edge_iff_feeds.2 h
  · exact ⟨roleAt u.node, roleAt v.node, (idOf_eq _).symm, (idOf_eq _).symm,
      mem_moves_iff_symbolicStep.1 h⟩
  · rintro ⟨r, q, hr, hq, hstep, hback⟩
    obtain rfl := eq_roleAt hstep.1 hr
    obtain rfl := eq_roleAt hstep.2.1 hq
    exact mem_moves_iff_symbolicStep.2 ⟨hstep, hback⟩

/-- The attic leads to itself, desk and hall to each other, and the porch to a desk with no way
back; what the yard grants mentions no capture. -/
def landings : List Role :=
  [.plain "porch*".toList ["assume:desk<..>".toList] ⟨0, 0⟩,
   .plain "desk*".toList ["assume:hall<..>".toList] ⟨0, 0⟩,
   .plain "attic*".toList ["assume:attic<..>7".toList] ⟨0, 0⟩,
   .plain "hall*".toList ["assume:desk/<..>".toList] ⟨0, 0⟩,
   .plain "yard*".toList ["assume:yard*".toList] ⟨0, 0⟩]

theorem size_landings : (carrierGraph landings).carriers.size = 4 := by decide +kernel

/-- The components of the landings, as a depth-first search leaves them: the attic, the hall with
the desk, and the porch. -/
def landingComponents : List (List (carrierGraph landings).Node) :=
  [[0], [2, 1], [3]].map (List.map (Fin.cast size_landings.symm))

theorem cyclicIds_exact_landings :
    ofRoles landings = .ok (carrierGraph landings) ∧
      (carrierGraph landings).cyclicIds = ["attic*".toList, "desk*".toList, "hall*".toList] ∧
      (∃ r ∈ effective landings,
        r.IsCarrier ∧ r.id = "hall*".toList ∧ TransGen (Feeds landings) r r) ∧
      (¬ ∃ r ∈ effective landings,
        r.IsCarrier ∧ r.id = "porch*".toList ∧ TransGen (Feeds landings) r r) ∧
      (carrierGraph landings).edges.IsComponents landingComponents ∧
      FoundFrom (carrierGraph landings) landingComponents := by
  have hg : ofRoles landings = .ok (carrierGraph landings) := by
    refine ofRoles_eq_ok_iff.2 ⟨fun r hr => ?_, rfl⟩
    have hvalid : ∀ r ∈ landings, r.validate = .ok () := by
      simp only [validate_eq_ok_iff]
      decide
    exact hvalid r (mem_of_mem_effective hr)
  have hids : (carrierGraph landings).cyclicIds =
      ["attic*".toList, "desk*".toList, "hall*".toList] := by decide +kernel
  have hparts : (carrierGraph landings).edges.IsComponents landingComponents := by
    decide +kernel
  obtain ⟨-, hmem, -, -, -, -, hfound⟩ := cyclicIds_exact hg
  refine ⟨hg, hids, (hmem _).1 ?_, mt (hmem _).2 ?_, hparts, hfound _ hparts⟩ <;>
    rw [hids] <;> decide

end RoleGraph

end DelegatedScopes
