import DelegatedScopes.Proofs.Role.Loop

/-!
# Roles — the verdict of the termination check

* `RoleGraph.walk_ok`: a walk that succeeds, below a visit of a carrier with nothing known of its
  capture, has explored all that its visits lead to, and that carrier is not among it.
* `validateRoles_eq_ok_iff`: a list of roles is accepted when its definitions are valid and no
  carrier comes back to itself in symbolic steps, starting with nothing known of its capture.

A visit is explored only once everything it moves on to is.  So the explored visits are closed
under moves (`Avoids`), whatever the paths were under which they were explored.  The comparison
of capture lengths plays no part in the verdict: a capture of length zero is no longer than any
other, so the carrier that a walk starts from is always found returning, and a loop with any
capture is also a loop with nothing known of it.
-/

namespace DelegatedScopes

open Relation

namespace RoleGraph

variable {g : RoleGraph}

/-! ### Explored visits -/

theorem order_eq_compareLex :
    (Visit.order : g.Visit → g.Visit → Ordering) =
      compareLex (compareOn Visit.node) (compareOn Visit.capture) := rfl

instance : Std.TransCmp (@Visit.order g) := order_eq_compareLex (g := g) ▸ inferInstance

instance : Std.LawfulEqCmp (@Visit.order g) where
  eq_of_compare {u v} h := by
    rw [Visit.order, Ordering.then_eq_eq] at h
    obtain ⟨i, c⟩ := u
    obtain ⟨j, d⟩ := v
    obtain rfl : i = j := Std.LawfulEqCmp.eq_of_compare h.1
    obtain rfl : c = d := Std.LawfulEqCmp.eq_of_compare h.2
    rfl

theorem mem_insert {explored : Explored g} {u v : g.Visit} :
    u ∈ explored.insert v ↔ u = v ∨ u ∈ explored := by
  rw [Std.TreeSet.mem_insert, Std.LawfulEqCmp.compare_eq_iff_eq, eq_comm]

/-- The explored visits are closed under moves, and none of them is of the given carrier. -/
structure Avoids (i : g.Node) (explored : Explored g) : Prop where
  node_ne : ∀ v ∈ explored, v.node ≠ i
  closed : ∀ v ∈ explored, ∀ w ∈ g.moves v, w ∈ explored

theorem Avoids.insert {i : g.Node} {explored : Explored g} (h : Avoids i explored) {v : g.Visit}
    (hv : v.node ≠ i) (hmoves : ∀ w ∈ g.moves v, w ∈ explored) :
    Avoids i (explored.insert v) where
  node_ne u hu := by
    rcases mem_insert.1 hu with rfl | hu
    · exact hv
    · exact h.node_ne u hu
  closed u hu w hw := by
    rcases mem_insert.1 hu with rfl | hu
    · exact mem_insert.2 (.inr (hmoves w hw))
    · exact mem_insert.2 (.inr (h.closed u hu w hw))

/-- Whatever explored visits move on to, in any number of moves, is explored. -/
theorem Avoids.closed_transGen {i : g.Node} {explored : Explored g} (h : Avoids i explored)
    {u v : g.Visit} (t : TransGen (fun a b => b ∈ g.moves a) u v)
    (hu : ∀ w ∈ g.moves u, w ∈ explored) : v ∈ explored := by
  induction t with
  | single hw => exact hu _ hw
  | tail _ hw ih => exact h.closed _ ih _ hw

/-! ### The walk -/

/-- **A walk that succeeds explores all its visits lead to**, and below a visit of a carrier with
nothing known of its capture it does not meet that carrier. -/
theorem walk_ok {i : g.Node} {path : List g.Visit} {explored explored' : Explored g}
    {visits : List g.Visit} (h : walk path explored visits = .ok explored')
    (hroot : ∃ u, latestVisit path i = some u ∧ u.size = 0) (ha : Avoids i explored) :
    Avoids i explored' ∧ (∀ v ∈ explored, v ∈ explored') ∧ ∀ v ∈ visits, v ∈ explored' := by
  fun_induction walk path explored visits generalizing explored' with
  | case1 =>
      cases h
      exact ⟨ha, fun _ hv => hv, List.forall_mem_nil _⟩
  | case2 => cases h
  | case3 path explored v rest hret hmem ih =>
      obtain ⟨ha', hsub, hrest⟩ := ih h hroot ha
      refine ⟨ha', hsub, fun w hw => ?_⟩
      rcases List.mem_cons.1 hw with rfl | hw
      · exact hsub w (Std.TreeSet.contains_iff_mem.1 hmem)
      · exact hrest w hw
  | case4 => cases h
  | case5 path explored v rest hret hmem explored₁ hw ih₁ ih₂ =>
      -- `v` does not return, so it is not of the carrier
      have hv : v.node ≠ i := by
        rintro rfl
        obtain ⟨u, hu, hsize⟩ := hroot
        exact hret (by simp [returns, hu, hsize])
      have hroot' : ∃ u, latestVisit (v :: path) i = some u ∧ u.size = 0 := by
        rwa [latestVisit_cons_ne path v (Ne.symm hv)]
      obtain ⟨ha₁, hsub₁, hmoves⟩ := ih₁ hw hroot' ha
      obtain ⟨ha₂, hsub₂, hrest⟩ := ih₂ h hroot (ha₁.insert hv hmoves)
      have hsub : ∀ w ∈ explored₁, w ∈ explored' := fun w hw =>
        hsub₂ w (mem_insert.2 (.inr hw))
      refine ⟨ha₂, fun w hw => hsub w (hsub₁ w hw), fun w hw => ?_⟩
      rcases List.mem_cons.1 hw with rfl | hw
      · exact hsub₂ w (mem_insert.2 (.inl rfl))
      · exact hrest w hw

/-- A walk from a carrier, with nothing known of its capture, that succeeds: no moves lead back to
it. -/
theorem not_transGen_of_walk_ok {i : g.Node} {explored : Explored g}
    (h : walk [] ∅ [⟨i, []⟩] = .ok explored) (c : Text) :
    ¬ TransGen (fun a b => b ∈ g.moves a) (⟨i, []⟩ : g.Visit) ⟨i, c⟩ := by
  intro t
  rw [walk] at h
  split at h
  · cases h
  · split at h
    · rename_i hmem
      simp at hmem
    · split at h
      · cases h
      · rename_i explored₁ hw
        have hroot : ∃ u, latestVisit [(⟨i, []⟩ : g.Visit)] i = some u ∧ u.size = 0 :=
          ⟨⟨i, []⟩, latestVisit_cons_self [] _, rfl⟩
        have hempty : Avoids i (∅ : Explored g) := ⟨by simp, by simp⟩
        obtain ⟨ha, -, hmoves⟩ := walk_ok hw hroot hempty
        exact ha.node_ne _ (ha.closed_transGen t hmoves) rfl

/-! ### The verdict -/

/-- **The check passes when no carrier comes back to itself**, starting with nothing known of its
capture. -/
theorem Lawful.check_eq_ok_iff (hg : g.Lawful) :
    g.check = .ok () ↔ ∀ i c, ¬ TransGen Passes (⟨i, []⟩ : g.Visit) ⟨i, c⟩ := by
  constructor
  · intro h i c t
    rw [check, forM_eq_ok_iff] at h
    have hi := h i (hg.mem_cyclic t)
    split at hi
    · cases hi
    · rename_i explored hw
      exact not_transGen_of_walk_ok hw c (hg.transGen_moves_of_loop t)
  · intro h
    cases hcheck : g.check with
    | ok u => rfl
    | error e =>
        obtain ⟨found, hloop, -⟩ := isLoop_of_check_error hcheck
        obtain ⟨⟨j, c⟩, ⟨k, d⟩, hnode, t⟩ := hloop.exists_transGen
        obtain rfl : j = k := hnode
        have t' : TransGen Passes (⟨j, c⟩ : g.Visit) ⟨j, d⟩ :=
          t.lift id fun _ _ hm => (mem_moves.1 hm).1
        obtain ⟨d₀, -, t₀⟩ := transGen_passes_of_prefix t' List.nil_prefix
        exact absurd t₀ (h j d₀)

end RoleGraph

open Role (SymbolicStep)

variable {roles : List Role}

theorem validateRoles_iff_check :
    validateRoles roles = .ok () ↔
      (∀ r ∈ Role.effective roles, r.validate = .ok ()) ∧
        (RoleGraph.carrierGraph roles).check = .ok () := by
  rw [validateRoles]
  cases h : RoleGraph.ofRoles roles with
  | ok g =>
      obtain ⟨hv, rfl⟩ := RoleGraph.ofRoles_eq_ok_iff.1 h
      exact ⟨fun hc => ⟨hv, hc⟩, fun hc => hc.2⟩
  | error e =>
      refine ⟨nofun, fun hc => ?_⟩
      rw [RoleGraph.ofRoles_eq_ok_iff.2 ⟨hc.1, rfl⟩] at h
      cases h

theorem check_carrierGraph :
    (RoleGraph.carrierGraph roles).check = .ok () ↔ Role.LoopFree roles := by
  have hg : (RoleGraph.carrierGraph roles).Lawful := RoleGraph.lawful_ofCarriers _
  rw [hg.check_eq_ok_iff]
  constructor
  · intro h r hr c t
    obtain ⟨i, rfl⟩ := RoleGraph.exists_roleAt hr
    obtain ⟨d, t'⟩ := RoleGraph.loop_iff.1 ⟨c, t⟩
    exact h i d t'
  · intro h i c t
    obtain ⟨d, t'⟩ := RoleGraph.loop_iff.2 ⟨c, t⟩
    exact h _ (RoleGraph.roleAt_mem i) d t'

/-- **The verdict of validation.**  A list of roles is accepted when every definition that counts
is valid and no carrier comes back to itself in symbolic steps, starting with nothing known of its
capture. -/
theorem validateRoles_eq_ok_iff (roles : List Role) :
    validateRoles roles = .ok () ↔
      (∀ r ∈ Role.effective roles, r.validate = .ok ()) ∧
        ∀ r ∈ Role.effective roles, r.IsCarrier →
          ∀ c, ¬ TransGen (SymbolicStep roles) (r, []) (r, c) := by
  rw [validateRoles_iff_check, check_carrierGraph]
  refine and_congr_right fun _ => ⟨fun h r hr hc => h r (Role.mem_carrierRoles.2 ⟨hr, hc⟩), ?_⟩
  intro h r hr
  obtain ⟨hr, hc⟩ := Role.mem_carrierRoles.1 hr
  exact h r hr hc

end DelegatedScopes
