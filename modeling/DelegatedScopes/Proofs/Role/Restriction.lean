import DelegatedScopes.Proofs.Role.Termination

/-!
# Roles — taking delegation away

* `Role.Within`: a role that grants some of what another definition of its id grants.
* `Role.Narrower`: a list of roles that are each within one of another list.
* `Role.Narrower.step`, `Role.Narrower.loopFree`: the wider definitions follow every symbolic step,
  so what has no loops loses none of that by having less.
* `validateRoles_of_within`: a list of roles with less delegation than an accepted one is accepted.

With fewer roles and fewer scopes the graph of carriers has other cycles, the walks start at other
carriers and explore in another order, and the two runs of the check have little in common.  But
what validation decides is whether a carrier comes back to itself, and a loop among the narrower
definitions is followed by the wider ones, with the same captures.
-/

namespace DelegatedScopes

open Scope Relation

namespace Role

variable {fewer roles : List Role}

/-- Two definitions of one id, of which the second has all the scopes of the first. -/
structure Within (r q : Role) : Prop where
  id_eq : r.id = q.id
  scopes : r.scopes ⊆ q.scopes

namespace Within

variable {r q : Role}

instance : Decidable (Within r q) :=
  decidable_of_iff (r.id = q.id ∧ r.scopes ⊆ q.scopes) ⟨fun h => ⟨h.1, h.2⟩, fun h => ⟨h.1, h.2⟩⟩

theorem templates (h : Within r q) : r.templates ⊆ q.templates :=
  List.map_subset _ h.scopes

theorem isParameterized (h : Within r q) : r.isParameterized = q.isParameterized := by
  rw [Role.isParameterized, Role.isParameterized, h.id_eq]

/-- Fewer scopes have fewer faults. -/
theorem validate (h : Within r q) (hq : q.validate = .ok ()) : r.validate = .ok () := by
  obtain ⟨hid, hscopes⟩ := (validate_eq_ok_iff q).1 hq
  refine (validate_eq_ok_iff r).2 ⟨h.id_eq ▸ hid, fun s hs => ?_⟩
  rw [h.isParameterized]
  exact hscopes s (h.scopes hs)

theorem isCarrier (h : Within r q) (hr : r.IsCarrier) : q.IsCarrier := by
  obtain ⟨hp, t, ht, hplaceholder⟩ := hr
  exact ⟨h.isParameterized ▸ hp, t, h.templates ht, hplaceholder⟩

end Within

/-- Every definition that counts is within one of the wider list that counts. -/
def Narrower (fewer roles : List Role) : Prop :=
  ∀ r ∈ effective fewer, ∃ q ∈ effective roles, Within r q

namespace Narrower

/-- **The wider definitions follow a symbolic step**, with the same capture. -/
theorem step (hnarrow : Narrower fewer roles) {u v : Role × Text} (h : SymbolicStep fewer u v)
    {q : Role} (hq : q ∈ carrierRoles roles) (hu : Within u.1 q) :
    ∃ q' ∈ carrierRoles roles, Within v.1 q' ∧ SymbolicStep roles (q, u.2) (q', v.2) := by
  obtain ⟨-, hv, t, ht, hp, m, hm, hcapture⟩ := h
  obtain ⟨hv, hcarrier⟩ := mem_carrierRoles.1 hv
  obtain ⟨q', hq', hvq⟩ := hnarrow _ hv
  have hmem : q' ∈ carrierRoles roles := mem_carrierRoles.2 ⟨hq', hvq.isCarrier hcarrier⟩
  -- the same template, with the same capture, activates the wider definition of the same id
  exact ⟨q', hmem, hvq, hq, hmem, t, hu.templates ht, hp, m, hvq.id_eq ▸ hm, hcapture⟩

/-- The wider definitions follow any number of symbolic steps. -/
theorem steps (hnarrow : Narrower fewer roles) {u v : Role × Text}
    (h : TransGen (SymbolicStep fewer) u v) {q : Role} (hq : q ∈ carrierRoles roles)
    (hu : Within u.1 q) :
    ∃ q' ∈ carrierRoles roles, Within v.1 q' ∧
      TransGen (SymbolicStep roles) (q, u.2) (q', v.2) := by
  induction h with
  | single h =>
      obtain ⟨q', hq', hv, hstep⟩ := hnarrow.step h hq hu
      exact ⟨q', hq', hv, .single hstep⟩
  | tail _ h ih =>
      obtain ⟨w, hw, hwv, t⟩ := ih
      obtain ⟨q', hq', hv, hstep⟩ := hnarrow.step h hw hwv
      exact ⟨q', hq', hv, t.tail hstep⟩

/-- **Fewer definitions have fewer loops.** -/
theorem loopFree (hnarrow : Narrower fewer roles) (h : LoopFree roles) : LoopFree fewer := by
  intro r hr c t
  obtain ⟨hmem, hcarrier⟩ := mem_carrierRoles.1 hr
  obtain ⟨q, hq, hrq⟩ := hnarrow r hmem
  have hqc : q ∈ carrierRoles roles := mem_carrierRoles.2 ⟨hq, hrq.isCarrier hcarrier⟩
  obtain ⟨q', hq', hrq', t'⟩ := hnarrow.steps t hqc hrq
  -- the loop ends with the definition it started from, as no other one has that id
  have hid : q'.id = q.id := hrq'.id_eq.symm.trans hrq.id_eq
  obtain rfl := eq_of_mem_effective (mem_carrierRoles.1 hq').1 hq hid
  exact h q' hqc c t'

end Narrower

theorem narrower_of_within (hids : (roles.map Role.id).Nodup)
    (hwithin : ∀ r ∈ fewer, ∃ q ∈ roles, Within r q) : Narrower fewer roles := by
  intro r hr
  obtain ⟨q, hq, hrq⟩ := hwithin r (mem_of_mem_effective hr)
  exact ⟨q, mem_effective_of_nodup hids hq, hrq⟩

end Role

open Role

/-- **Taking delegation away never breaks validity.**  Of two lists of roles let the second have no
id twice, and let every role of the first occur in the second under its id, with all its scopes.
When the second list is accepted, so is the first. -/
theorem validateRoles_of_within {fewer roles : List Role} (hids : (roles.map Role.id).Nodup)
    (hwithin : ∀ r ∈ fewer, ∃ q ∈ roles, Within r q) (h : validateRoles roles = .ok ()) :
    validateRoles fewer = .ok () := by
  have hnarrow := narrower_of_within hids hwithin
  obtain ⟨hvalid, hcheck⟩ := validateRoles_iff_check.1 h
  refine validateRoles_iff_check.2 ⟨fun r hr => ?_, ?_⟩
  · obtain ⟨q, hq, hrq⟩ := hnarrow r hr
    exact hrq.validate (hvalid q hq)
  · exact check_carrierGraph.2 (hnarrow.loopFree (check_carrierGraph.1 hcheck))

/-- From the bay to the den, from there to the hut, to the pit and back to the bay: each carrier
hands on what it captured, but the hut and the bay want a 7 that never comes. -/
def ringRoles : List Role :=
  [.plain "bay7*".toList ["assume:den1<..>".toList] ⟨0, 0⟩,
   .plain "den*".toList ["assume:hut<..>".toList, "den:key".toList] ⟨0, 0⟩,
   .plain "hut7*".toList ["assume:pit1<..>".toList] ⟨0, 0⟩,
   .plain "pit*".toList ["assume:bay<..>".toList] ⟨0, 0⟩]

/-- The ring without the hut, and without the key to the den. -/
def brokenRing : List Role :=
  [.plain "den*".toList ["assume:hut<..>".toList] ⟨0, 0⟩,
   .plain "bay7*".toList ["assume:den1<..>".toList] ⟨0, 0⟩,
   .plain "pit*".toList ["assume:bay<..>".toList] ⟨0, 0⟩]

theorem validateRoles_ring : validateRoles ringRoles = .ok () := by
  have heff : effective ringRoles = ringRoles := by decide +kernel
  refine validateRoles_iff_check.2 ⟨?_, RoleGraph.check_of_checkWithin (n := 16) ?_⟩
  · simp only [heff, validate_eq_ok_iff]
    decide
  · decide +kernel

theorem validateRoles_of_within_ring :
    (ringRoles.map Role.id).Nodup ∧ (∀ r ∈ brokenRing, ∃ q ∈ ringRoles, Within r q) ∧
      validateRoles ringRoles = .ok () ∧ validateRoles brokenRing = .ok () := by
  have hids : (ringRoles.map Role.id).Nodup := by decide
  have hwithin : ∀ r ∈ brokenRing, ∃ q ∈ ringRoles, Within r q := by decide
  exact ⟨hids, hwithin, validateRoles_ring,
    validateRoles_of_within hids hwithin validateRoles_ring⟩

end DelegatedScopes
