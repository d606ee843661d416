import DelegatedScopes.Role.Graph
import Mathlib.Data.List.Nodup

/-!
# Roles — the definitions that count

* `mem_effective`: a definition counts when it is the last one of its id.
* `pairwise_effective`: the definitions that count stand by ascending id, so no id occurs twice
  (`nodup_ids_effective`).
* `validate_eq_ok_iff`: what a definition without a fault satisfies.
* `IsCarrier`, `ofRole?_eq_some_iff`: the roles that hand a capture on.
-/

namespace DelegatedScopes

/-- A loop that may fail succeeds when every step does. -/
theorem forM_eq_ok_iff {ε α : Type} {f : α → Except ε PUnit} (l : List α) :
    l.forM f = .ok () ↔ ∀ x ∈ l, f x = .ok () := by
  induction l with
  | nil => simp [List.forM, pure, Except.pure]
  | cons x l ih =>
      rw [List.forall_mem_cons, ← ih]
      cases hx : f x with
      | error e => simp [List.forM, bind, Except.bind, hx]
      | ok u => simp [List.forM, bind, Except.bind, hx]

/-- A loop that fails does so at one of its steps. -/
theorem exists_of_forM_eq_error {ε α : Type} {f : α → Except ε PUnit} {l : List α} {e : ε}
    (h : l.forM f = .error e) : ∃ x ∈ l, f x = .error e := by
  induction l with
  | nil => cases h
  | cons x l ih =>
      cases hx : f x with
      | error e' =>
          simp only [List.forM, bind, Except.bind, hx] at h
          exact ⟨x, List.mem_cons_self, h ▸ hx⟩
      | ok u =>
          simp only [List.forM, bind, Except.bind, hx] at h
          obtain ⟨y, hy, hye⟩ := ih h
          exact ⟨y, List.mem_cons_of_mem x hy, hye⟩

namespace Role

/-! ### The last definition of an id -/

/-- The last definition of an id. -/
def latest? (roles : List Role) (id : Text) : Option Role := roles.reverse.find? fun r => r.id = id

/-- The definitions by id, each overwritten by a later one. -/
theorem getElem?_definitions (roles : List Role) (id : Text) :
    (roles.foldl (fun known r => known.insert r.id r) (∅ : Std.TreeMap Text Role))[id]? =
      latest? roles id := by
  rw [List.foldl_eq_foldr_reverse, latest?]
  induction roles.reverse with
  | nil => simp
  | cons r l ih =>
      simp only [List.foldr_cons, Std.TreeMap.getElem?_insert, ih, List.find?_cons,
        Std.LawfulEqCmp.compare_eq_iff_eq]
      by_cases h : r.id = id <;> simp [h]

theorem values_eq_map {α : Type} (m : Std.TreeMap Text α) : m.values = m.toList.map Prod.snd := by
  have h : m.values = m.foldr (fun _ v l => v :: l) [] := rfl
  rw [h, Std.TreeMap.foldr_eq_foldr_toList]
  exact List.map_eq_foldr.symm

theorem id_of_latest? {roles : List Role} {id : Text} {r : Role} (h : latest? roles id = some r) :
    r.id = id := by
  simpa using List.find?_some h

/-- **A definition counts when it is the last one of its id.** -/
theorem mem_effective {roles : List Role} {r : Role} :
    r ∈ effective roles ↔ latest? roles r.id = some r := by
  simp only [effective, values_eq_map, List.mem_map, Prod.exists, exists_eq_right,
    Std.TreeMap.mem_toList_iff_getElem?_eq_some, getElem?_definitions]
  constructor
  · rintro ⟨id, h⟩
    rwa [id_of_latest? h]
  · exact fun h => ⟨r.id, h⟩

theorem mem_of_mem_effective {roles : List Role} {r : Role} (h : r ∈ effective roles) :
    r ∈ roles :=
  List.mem_reverse.1 (List.mem_of_find?_eq_some (mem_effective.1 h))

/-- No two definitions of one id count. -/
theorem eq_of_mem_effective {roles : List Role} {q r : Role} (hq : q ∈ effective roles)
    (hr : r ∈ effective roles) (hid : q.id = r.id) : q = r := by
  have hlatest := mem_effective.1 hq
  rw [hid, mem_effective.1 hr] at hlatest
  exact (Option.some.inj hlatest).symm

/-- Where no id occurs twice, every definition counts. -/
theorem mem_effective_of_nodup {roles : List Role} {r : Role} (hids : (roles.map Role.id).Nodup)
    (hr : r ∈ roles) : r ∈ effective roles := by
  rw [mem_effective]
  cases h : latest? roles r.id with
  | none =>
      have := List.find?_eq_none.1 h r (List.mem_reverse.2 hr)
      simp at this
  | some q =>
      have hq : q ∈ roles := List.mem_reverse.1 (List.mem_of_find?_eq_some h)
      rw [List.inj_on_of_nodup_map hids hq hr (id_of_latest? h)]

/-- **The definitions that count stand by ascending id.** -/
theorem pairwise_effective (roles : List Role) :
    (effective roles).Pairwise fun q r => compare q.id r.id = .lt := by
  rw [effective, values_eq_map, List.pairwise_map]
  refine Std.TreeMap.ordered_keys_toList.imp_of_mem fun {p q} hp hq h => ?_
  rw [Std.TreeMap.mem_toList_iff_getElem?_eq_some, getElem?_definitions] at hp hq
  rwa [id_of_latest? hp, id_of_latest? hq]

theorem nodup_effective (roles : List Role) : (effective roles).Nodup := by
  refine (pairwise_effective roles).imp fun {q r} h e => ?_
  simp [e] at h

/-- No id is defined twice among the definitions that count. -/
theorem nodup_ids_effective (roles : List Role) : ((effective roles).map Role.id).Nodup := by
  rw [List.nodup_iff_pairwise_ne, List.pairwise_map]
  refine (pairwise_effective roles).imp fun {q r} h e => ?_
  simp [e] at h

/-! ### Valid definitions -/

/-- A definition has no fault when its id is not empty, no marker in it is broken, and only
parameterized roles use the placeholder. -/
theorem validate_eq_ok_iff (r : Role) :
    r.validate = .ok () ↔ r.id ≠ [] ∧ ∀ s ∈ r.scopes, Template.wellFormed s = true ∧
      ((Template.parse s).hasPlaceholder = true → r.isParameterized = true) := by
  rw [validate]
  split
  · rename_i h
    simp [List.isEmpty_iff.1 h]
  · rename_i h
    rw [forM_eq_ok_iff]
    refine ⟨fun hf => ⟨fun e => h (List.isEmpty_iff.2 e), fun s hs => ?_⟩, fun ⟨_, hf⟩ s hs => ?_⟩
    · have := hf s hs
      simp only [scopeFault?] at this
      cases hw : Template.wellFormed s <;> cases hp : r.isParameterized <;>
        cases hh : (Template.parse s).hasPlaceholder <;> simp [hw, hp, hh] at this ⊢
    · obtain ⟨hw, hp⟩ := hf s hs
      have : scopeFault? r.isParameterized s = none := by
        cases hh : (Template.parse s).hasPlaceholder with
        | false => simp [scopeFault?, hw, hh]
        | true => simp [scopeFault?, hw, hp hh]
      simp [this]

/-- In a valid definition only a parameterized role hands its capture on. -/
theorem isParameterized_of_validate {r : Role} (h : r.validate = .ok ()) {t : Template}
    (ht : t ∈ r.templates) (hp : t.hasPlaceholder = true) : r.isParameterized = true := by
  obtain ⟨s, hs, rfl⟩ := List.mem_map.1 ht
  exact (((validate_eq_ok_iff r).1 h).2 s hs).2 hp

/-! ### Carriers -/

/-- A parameterized role with a placeholder in its scopes. -/
def IsCarrier (r : Role) : Prop :=
  r.isParameterized = true ∧ ∃ t ∈ r.templates, t.hasPlaceholder = true

/-- The carrier of a role that hands its capture on. -/
def toCarrier (r : Role) : Carrier := ⟨r.id, r.templates.filter Template.hasPlaceholder⟩

/-- A carrier is what its role hands on: the templates with a placeholder. -/
theorem ofRole?_eq_some_iff {r : Role} {c : Carrier} :
    Carrier.ofRole? r = some c ↔ r.IsCarrier ∧ c = r.toCarrier := by
  have hne : r.templates.filter Template.hasPlaceholder ≠ [] ↔
      ∃ t ∈ r.templates, t.hasPlaceholder = true := by
    simp [List.filter_eq_nil_iff]
  rw [Carrier.ofRole?, IsCarrier, ← hne]
  by_cases h : r.isParameterized = true ∧ r.templates.filter Template.hasPlaceholder ≠ []
  · simp [h.1, h.2, toCarrier, @eq_comm _ c]
  · refine iff_of_false (fun hc => h ?_) (fun hc => h hc.1)
    by_cases hp : r.isParameterized = true <;> simp_all

end Role

end DelegatedScopes
