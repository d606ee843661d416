import DelegatedScopes.Proofs.Role.Loop

/-!
# Roles — reported cycles

* `Role.IsCycle`: role ids round which a capture can be handed on and come back no shorter.
* `isCycle_of_check_error`: whatever the check refuses a list of roles for is such a cycle.

The carriers of the graph are roles, and the moves of a walk are symbolic steps between them, within
the cycles of a carrier.  So a loop of the graph spells out a cycle, visit by visit.
-/

namespace DelegatedScopes

namespace Role

/-- Role ids round which a capture can be handed on and come back no shorter.  The ids are those of
carriers, and there are captures, one for each, along which every carrier activates the next one in
a symbolic step. -/
structure IsCycle (roles : List Role) (path : List Text) : Prop where
  two_le_length : 2 ≤ path.length
  closed : path.head? = path.getLast?
  captures : ∃ states : List (Role × Text), path = states.map (fun u => u.1.id) ∧
    (∀ u ∈ states, u.1 ∈ effective roles ∧ u.1.IsCarrier) ∧
    states.IsChain (SymbolicStep roles) ∧
    ∃ first ∈ states.head?, ∃ last ∈ states.getLast?, first.2.byteLength ≤ last.2.byteLength

end Role

open Role RoleGraph

variable {roles : List Role}

theorem RoleGraph.idOf_eq (i : (carrierGraph roles).Node) :
    (carrierGraph roles).idOf i = (roleAt i).id :=
  congrArg Carrier.id (carrierAt_eq i)

/-- The ids along a loop of the graph are a cycle. -/
theorem RoleGraph.IsLoop.isCycle {visits : List (carrierGraph roles).Visit} (h : IsLoop visits) :
    IsCycle roles (visits.map fun v => (carrierGraph roles).idOf v.node) := by
  obtain ⟨hchain, first, between, last, rfl, hnode, hsize⟩ := h
  refine ⟨by simp, ?_, (first :: between ++ [last]).map state, ?_, ?_, ?_, ?_⟩
  · rw [List.map_append, List.map_singleton, List.getLast?_concat, ← hnode]
    rfl
  · rw [List.map_map]
    exact List.map_congr_left fun v _ => idOf_eq v.node
  · intro u hu
    obtain ⟨v, -, rfl⟩ := List.mem_map.1 hu
    exact mem_carrierRoles.1 (roleAt_mem v.node)
  · rw [List.isChain_map]
    exact hchain.imp fun u v hv => passes_iff.1 (mem_moves.1 hv).1
  · refine ⟨state first, rfl, state last, ?_, hsize⟩
    rw [List.map_append, List.map_singleton, List.getLast?_concat]
    rfl

/-- **A reported cycle is genuine.**  When the check of a list of roles fails, it reports a path of
at least two role ids, the first and the last one equal, all of them ids of carriers; and there are
captures to go along the path in symbolic steps, the last one no shorter than the first. -/
theorem isCycle_of_check_error {g : RoleGraph} (hg : RoleGraph.ofRoles roles = .ok g)
    {e : RoleSetError} (h : g.check = .error e) : ∃ path, e = .cycle path ∧ IsCycle roles path := by
  obtain ⟨-, rfl⟩ := ofRoles_eq_ok_iff.1 hg
  obtain ⟨found, hloop, rfl⟩ := isLoop_of_check_error h
  exact ⟨_, rfl, hloop.isCycle⟩

/-- Whoever has a desk has the hall of the same number, and whoever has a hall has the desk with a 7
before that number: round and round, with ever more sevens. -/
def sevens : List Role :=
  [.plain "desk*".toList ["assume:hall<..>".toList] ⟨0, 0⟩,
   .plain "hall*".toList ["assume:desk7<..>".toList] ⟨0, 0⟩]

theorem isCycle_of_check_error_sevens :
    (carrierGraph sevens).check =
        .error (.cycle ["desk*".toList, "hall*".toList, "desk*".toList]) ∧
      IsCycle sevens ["desk*".toList, "hall*".toList, "desk*".toList] := by
  have hg : RoleGraph.ofRoles sevens = .ok (carrierGraph sevens) := by
    have heff : effective sevens = sevens := by decide +kernel
    refine ofRoles_eq_ok_iff.2 ⟨?_, rfl⟩
    simp only [heff, validate_eq_ok_iff]
    decide
  have h : (carrierGraph sevens).check =
      .error (.cycle ["desk*".toList, "hall*".toList, "desk*".toList]) :=
    check_of_checkWithin (n := 8) (by decide +kernel)
  obtain ⟨path, hpath, hcycle⟩ := isCycle_of_check_error hg h
  cases hpath
  exact ⟨h, hcycle⟩

end DelegatedScopes
