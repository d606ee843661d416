import DelegatedScopes.Proofs.Role.Effective
import DelegatedScopes.Proofs.Scope.Monotone
import DelegatedScopes.Resolver.Basic

/-!
# Resolver — the index finds every activated role

* `RoleIndex.mem_lookup`: a lookup finds the roles that trying every role would find, with the
  same activations.
* `Role.Grants`: what the roles of a list grant to the holder of a scope.
* `Resolver.mem_grants`: a compiled resolver grants just that.

A lookup reads three tables.  `Indexes` says what is in the first two; the third is the literal
parts in order, where those that a text starts are a contiguous run (`mem_run`).
-/

namespace DelegatedScopes

namespace Text

/-- In an ascending list from `q` on, the texts that `q` starts come first. -/
theorem mem_takeWhile_leads {q : Text} {l : List (Text × Nat)}
    (hl : l.Pairwise fun x y => (compare x.1 y.1).isLE = true)
    (hq : ∀ x ∈ l, (compare q x.1).isLE = true) {x : Text × Nat} :
    x ∈ l.takeWhile (fun y => q.leads y.1) ↔ x ∈ l ∧ q <+: x.1 := by
  induction l with
  | nil => simp
  | cons y ys ih =>
      obtain ⟨hy, hys⟩ := List.pairwise_cons.1 hl
      have hqys : ∀ x ∈ ys, (compare q x.1).isLE = true :=
        fun x hx => hq x (List.mem_cons_of_mem y hx)
      rw [List.takeWhile_cons]
      split <;> rename_i h
      · rw [List.mem_cons, List.mem_cons, ih hys hqys]
        refine ⟨?_, fun ⟨hx, hp⟩ => hx.imp_right fun hx => ⟨hx, hp⟩⟩
        rintro (rfl | ⟨hx, hp⟩)
        · exact ⟨Or.inl rfl, leads_iff_isPrefix.1 h⟩
        · exact ⟨Or.inr hx, hp⟩
      · -- `q` does not start `y`, so it starts nothing that comes later
        refine ⟨nofun, fun ⟨hx, hp⟩ => absurd ?_ h⟩
        rw [leads_iff_isPrefix]
        rcases List.mem_cons.1 hx with rfl | hx
        · exact hp
        · exact prefix_of_between hp (hq y List.mem_cons_self) (hy x hx)

/-- **In an ascending list, the texts that `q` starts are the run after those before `q`.** -/
theorem mem_run {q : Text} {l : List (Text × Nat)}
    (hl : l.Pairwise fun x y => (compare x.1 y.1).isLE = true) {x : Text × Nat} :
    x ∈ (l.dropWhile fun y => (compare y.1 q).isLT).takeWhile (fun y => q.leads y.1) ↔
      x ∈ l ∧ q <+: x.1 := by
  induction l with
  | nil => simp
  | cons y ys ih =>
      obtain ⟨hy, hys⟩ := List.pairwise_cons.1 hl
      rw [List.dropWhile_cons]
      split <;> rename_i h
      · rw [ih hys, List.mem_cons]
        refine ⟨fun ⟨hx, hp⟩ => ⟨Or.inr hx, hp⟩, fun ⟨hx, hp⟩ => ⟨hx.resolve_left ?_, hp⟩⟩
        -- whatever `q` starts comes no earlier than `q`
        rintro rfl
        have hle := isLE_of_prefix hp
        rw [Ordering.isLT_iff_eq_lt, ← Std.OrientedCmp.gt_iff_lt] at h
        simp [h] at hle
      · have hqy : (compare q y.1).isLE = true := by
          rw [@Std.OrientedCmp.eq_swap _ compare _ q y.1]
          revert h
          cases compare y.1 q <;> simp
        refine mem_takeWhile_leads hl fun x hx => ?_
        rcases List.mem_cons.1 hx with rfl | hx
        · exact hqy
        · exact Std.TransCmp.isLE_trans hqy (hy x hx)

end Text

namespace RoleIndex
open Scope

/-! ### The tables -/

/-- The tables hold the given numbered ids: the plain ones, and the literal parts of the
parameterized ones. -/
structure Indexes (index : RoleIndex) (entries : List (Text × Nat)) : Prop where
  plain : ∀ q i, index.plain[q]? = some i ↔ (q, i) ∈ entries ∧ isWildcard q = false
  parameterized : ∀ q i, index.parameterized[q]? = some i ↔ (q ++ ['*'], i) ∈ entries

/-- An id entered for the first time joins those that are there. -/
theorem Indexes.insert {index : RoleIndex} {entries : List (Text × Nat)}
    (h : index.Indexes entries) {id : Text} (hid : id ∉ entries.map Prod.fst) (n : Nat) :
    (index.insert (id, n)).Indexes (entries ++ [(id, n)]) := by
  have hfresh : ∀ i, (id, i) ∉ entries := fun i hi => hid (List.mem_map.2 ⟨_, hi, rfl⟩)
  rw [RoleIndex.insert]
  cases hw : isWildcard id with
  | false =>
      refine ⟨fun q i => ?_, fun q i => ?_⟩
      · simp only [Bool.false_eq_true, if_false, Std.TreeMap.getElem?_insert,
          eq_of_not_isWildcard hw, Std.LawfulEqCmp.compare_eq_iff_eq, List.mem_append,
          List.mem_singleton, Prod.mk.injEq]
        split
        · rename_i e; subst e; simp [hw, hfresh, eq_comm]
        · rename_i e; rw [h.plain]; simp [Ne.symm e]
      · simp only [Bool.false_eq_true, if_false, h.parameterized, List.mem_append,
          List.mem_singleton, Prod.mk.injEq, append_star_ne hw, false_and, or_false]
  | true =>
      refine ⟨fun q i => ?_, fun q i => ?_⟩
      · simp only [if_true, h.plain, List.mem_append, List.mem_singleton, Prod.mk.injEq]
        refine ⟨fun hq => ⟨Or.inl hq.1, hq.2⟩, fun ⟨hq, hqw⟩ => ⟨hq.resolve_right ?_, hqw⟩⟩
        rintro ⟨rfl, -⟩
        rw [hw] at hqw; cases hqw
      · simp only [if_true, Std.TreeMap.getElem?_insert,
          Std.LawfulEqCmp.compare_eq_iff_eq, List.mem_append, List.mem_singleton, Prod.mk.injEq,
          literal_eq_iff hw]
        split
        · rename_i e; subst e; simp [hfresh, eq_comm]
        · rename_i e; rw [h.parameterized]; simp [e]

/-- Distinct ids entered one after the other all join those that are there. -/
theorem Indexes.foldl {todo : List (Text × Nat)} :
    ∀ {index : RoleIndex} {done : List (Text × Nat)}, index.Indexes done →
      ((done ++ todo).map Prod.fst).Nodup →
      (todo.foldl RoleIndex.insert index).Indexes (done ++ todo) := by
  induction todo with
  | nil => intro index done h _; simpa using h
  | cons e todo ih =>
      intro index done h hnodup
      rw [List.append_cons] at hnodup ⊢
      refine ih (h.insert (fun hmem => ?_) e.2) hnodup
      simp only [List.map_append, List.map_cons, List.map_nil] at hnodup
      have hdone := (List.nodup_append.1 (List.nodup_append.1 hnodup).1).2.2
      exact hdone e.1 hmem e.1 (by simp) rfl

/-- An index that is built of distinct ids holds each of them with its number. -/
theorem indexes_ofIds {ids : List Text} (h : ids.Nodup) : (ofIds ids).Indexes ids.zipIdx := by
  have hempty : ∀ l, Indexes ⟨∅, ∅, l⟩ [] := fun l => ⟨by simp, by simp⟩
  exact (hempty _).foldl (by simpa using h)

theorem byLiteral_foldl (todo : List (Text × Nat)) (index : RoleIndex) :
    (todo.foldl RoleIndex.insert index).byLiteral = index.byLiteral := by
  induction todo generalizing index with
  | nil => rfl
  | cons e todo ih =>
      rw [List.foldl_cons, ih, RoleIndex.insert]
      split <;> rfl

theorem literalOrder_iff {a b : Text × Nat} :
    literalOrder a b = true ↔
      compare a.1 b.1 = .lt ∨ compare a.1 b.1 = .eq ∧ (compare a.2 b.2).isLE = true := by
  rw [literalOrder, Ordering.isLE_then_iff_or]

/-- The ids are sorted by their literal parts. -/
theorem byLiteral_ofIds (ids : List Text) :
    (ofIds ids).byLiteral =
      (ids.zipIdx.map fun e => (literal e.1, e.2)).mergeSort literalOrder := by
  rw [ofIds, byLiteral_foldl]

theorem mem_byLiteral {ids : List Text} {l : Text} {i : Nat} :
    (l, i) ∈ (ofIds ids).byLiteral ↔ ∃ id, ids[i]? = some id ∧ literal id = l := by
  rw [byLiteral_ofIds, (List.mergeSort_perm _ _).mem_iff, List.mem_map]
  simp only [Prod.exists, List.mk_mem_zipIdx_iff_getElem?, Prod.mk.injEq]
  constructor
  · rintro ⟨id, j, h, rfl, rfl⟩
    exact ⟨id, h, rfl⟩
  · rintro ⟨id, h, rfl⟩
    exact ⟨id, i, h, rfl, rfl⟩

theorem pairwise_byLiteral (ids : List Text) :
    (ofIds ids).byLiteral.Pairwise fun x y => (compare x.1 y.1).isLE = true := by
  have hle : ∀ a b : Text × Nat,
      literalOrder a b = (compareLex (compareOn Prod.fst) (compareOn Prod.snd) a b).isLE :=
    fun a b => rfl
  rw [byLiteral_ofIds]
  refine (List.pairwise_mergeSort (fun a b c hab hbc => ?_) (fun a b => ?_) _).imp fun h => ?_
  · rw [hle] at hab hbc ⊢
    exact Std.TransCmp.isLE_trans hab hbc
  · rw [hle, hle, @Std.OrientedCmp.eq_swap _ (compareLex _ _) _ b a]
    cases compareLex (compareOn Prod.fst) (compareOn Prod.snd) a b <;> rfl
  · rw [literalOrder_iff] at h
    rcases h with h | ⟨h, -⟩ <;> simp [h]

/-! ### What a match is, by the kind of query -/

theorem eq_startingWith {m : Activation} (h : m.isOpen = true) :
    m = .startingWith m.capture := by
  cases m; cases h; rfl

/-- A plain query finds its own id, and the wildcard ids that it continues. -/
theorem matchRole_plain_iff {id q : Text} {m : Activation} (hq : isWildcard q = false) :
    matchRole id q = some m ↔
      id = q ∧ m = .exactly [] ∨ ∃ l c, id = l ++ ['*'] ∧ l ++ c = q ∧ m = .exactly c := by
  have hql : literal q = q := eq_of_not_isWildcard hq
  cases hid : isWildcard id with
  | false =>
      have hne : ∀ l, id ≠ l ++ ['*'] := fun l => (append_star_ne hid l).symm
      simp only [matchRole, hid, hq, eq_of_not_isWildcard hid, hql, hne, false_and, exists_false,
        or_false]
      by_cases h : id = q <;> simp [h, eq_comm]
  | true =>
      have hne : id ≠ q := by rintro rfl; rw [hid] at hq; cases hq
      simp only [matchRole, hid, hq, hql, hne, false_and, false_or, Option.map_eq_some_iff,
        Text.after?_eq_some]
      constructor
      · rintro ⟨c, e, rfl⟩
        exact ⟨literal id, c, eq_of_isWildcard hid, e.symm, rfl⟩
      · rintro ⟨l, c, rfl, rfl, rfl⟩
        exact ⟨c, by rw [literal_append_star], rfl⟩

/-- An open query finds the ids that continue it, and the wildcard ids that it continues. -/
theorem matchRole_open_iff {id q : Text} {m : Activation} (hq : isWildcard q = true) :
    matchRole id q = some m ↔
      literal q <+: literal id ∧ m = .startingWith [] ∨
        ∃ l c, id = l ++ ['*'] ∧ l ++ c = literal q ∧ c ≠ [] ∧ m = .startingWith c := by
  constructor
  · intro h
    have hopen := eq_startingWith ((isOpen_of_matchRole h).trans hq)
    rcases overlap_of_matchRole h with ⟨e, hc⟩ | ⟨hc, -, hp⟩
    · by_cases hne : m.capture = []
      · rw [hne, List.append_nil] at e
        exact Or.inl ⟨e ▸ List.prefix_rfl, hne ▸ hopen⟩
      · exact Or.inr ⟨literal id, m.capture, eq_of_isWildcard (hc.resolve_left hne), e.symm, hne,
          hopen⟩
    · exact Or.inl ⟨hp, hc ▸ hopen⟩
  · rintro (⟨hp, rfl⟩ | ⟨l, c, rfl, hlc, -, rfl⟩)
    · -- the role's literal part is in common, and nothing shorter is
      have hcommon : Common q id (literal id) :=
        ⟨(satisfiedBy_wildcard_iff hq).2 hp, satisfiedBy_literal id⟩
      obtain ⟨m, hm⟩ := exists_matchRole hcommon
      have hlen := (prefix_of_common hm hcommon).length_le
      have hc : m.capture = [] := by
        rw [List.length_append] at hlen
        exact List.eq_nil_of_length_eq_zero (by omega)
      rw [hm, eq_startingWith ((isOpen_of_matchRole hm).trans hq), hc]
    · have ha : (literal (l ++ ['*'])).after? (literal q) = some c := by
        rw [Text.after?_eq_some, literal_append_star, hlc]
      simp only [matchRole, isWildcard_append_star, hq, ha]

/-! ### Lookups -/

/-- A query is led by the wildcard ids whose literal part starts it, each with what is left. -/
theorem mem_leading {index : RoleIndex} {entries : List (Text × Nat)} (h : index.Indexes entries)
    {q c : Text} {i : Nat} :
    (i, c) ∈ index.leading q ↔ ∃ l, l ++ c = q ∧ (l ++ ['*'], i) ∈ entries := by
  simp only [leading, List.mem_filterMap, Prod.exists, Option.map_eq_some_iff, Prod.mk.injEq,
    Text.mem_splits, h.parameterized]
  constructor
  · rintro ⟨l, r, hlr, j, hj, rfl, rfl⟩
    exact ⟨l, hlr, hj⟩
  · rintro ⟨l, hlc, hi⟩
    exact ⟨l, c, hlc, i, hi, rfl, rfl⟩

/-- A plain lookup finds just what trying every id would. -/
theorem mem_lookupExact {ids : List Text} (h : ids.Nodup) {q : Text} (hq : isWildcard q = false)
    {i : Nat} {m : Activation} :
    (i, m) ∈ (ofIds ids).lookupExact q ↔ ∃ id, ids[i]? = some id ∧ matchRole id q = some m := by
  have hi := indexes_ofIds h
  simp only [lookupExact, List.mem_append, List.mem_map, Prod.exists, Prod.mk.injEq,
    Option.mem_toList, hi.plain, hq, and_true, mem_leading hi, List.mk_mem_zipIdx_iff_getElem?,
    matchRole_plain_iff hq]
  constructor
  · rintro (⟨j, hj, rfl, rfl⟩ | ⟨j, c, ⟨l, rfl, hj⟩, rfl, rfl⟩)
    · exact ⟨q, hj, Or.inl ⟨rfl, rfl⟩⟩
    · exact ⟨_, hj, Or.inr ⟨l, c, rfl, rfl, rfl⟩⟩
  · rintro ⟨id, hid, ⟨rfl, rfl⟩ | ⟨l, c, rfl, rfl, rfl⟩⟩
    · exact Or.inl ⟨i, hid, rfl, rfl⟩
    · exact Or.inr ⟨i, c, ⟨l, rfl, hid⟩, rfl, rfl⟩

/-- An open lookup finds just what trying every id would. -/
theorem mem_lookupOpen {ids : List Text} (h : ids.Nodup) {q : Text} (hq : isWildcard q = true)
    {i : Nat} {m : Activation} :
    (i, m) ∈ (ofIds ids).lookupOpen (literal q) ↔
      ∃ id, ids[i]? = some id ∧ matchRole id q = some m := by
  simp only [lookupOpen, List.mem_append, List.mem_map, Text.mem_run (pairwise_byLiteral ids),
    List.mem_filter, Prod.exists, Prod.mk.injEq, mem_byLiteral, mem_leading (indexes_ofIds h),
    List.mk_mem_zipIdx_iff_getElem?, matchRole_open_iff hq, Bool.not_eq_eq_eq_not, Bool.not_true,
    List.isEmpty_eq_false_iff]
  constructor
  · rintro (⟨l, j, ⟨⟨id, hid, rfl⟩, hp⟩, rfl, rfl⟩ | ⟨j, c, ⟨⟨l, hlc, hj⟩, hc⟩, rfl, rfl⟩)
    · exact ⟨id, hid, Or.inl ⟨hp, rfl⟩⟩
    · exact ⟨_, hj, Or.inr ⟨l, c, rfl, hlc, hc, rfl⟩⟩
  · rintro ⟨id, hid, ⟨hp, rfl⟩ | ⟨l, c, rfl, hlc, hc, rfl⟩⟩
    · exact Or.inl ⟨_, i, ⟨⟨id, hid, rfl⟩, hp⟩, rfl, rfl⟩
    · exact Or.inr ⟨i, c, ⟨⟨l, hlc, hid⟩, hc⟩, rfl, rfl⟩

/-- **A lookup finds the roles that trying every role would find.** -/
theorem mem_lookup {ids : List Text} (h : ids.Nodup) {s : Scope} {i : Nat} {m : Activation} :
    (i, m) ∈ (ofIds ids).lookup s ↔ ∃ id, ids[i]? = some id ∧ activate id s = some m := by
  rw [lookup]
  cases ha : assume.after? s with
  | some query =>
      simp only [activate, ha]
      split
      · rename_i hq; exact mem_lookupOpen h hq
      · rename_i hq; exact mem_lookupExact h (by simpa using hq)
  | none =>
      have hlen : (ofIds ids).byLiteral.length = ids.length := by
        rw [byLiteral_ofIds, (List.mergeSort_perm _ _).length_eq, List.length_map,
          List.length_zipIdx]
      simp only [activate, ha, hlen]
      split
      · simp only [List.mem_map, List.mem_range, Prod.mk.injEq, Option.some.injEq]
        constructor
        · rintro ⟨j, hj, rfl, rfl⟩
          exact ⟨ids[j], List.getElem?_eq_getElem hj, rfl⟩
        · rintro ⟨id, hid, rfl⟩
          exact ⟨i, (List.getElem?_eq_some_iff.1 hid).1, rfl, rfl⟩
      · simp

end RoleIndex

/-! ### What is granted -/

/-- The roles of a list grant `g` to the holder of `s`: a role activated by `s` has a template that
renders to `g`. -/
def Role.Grants (roles : List Role) (s g : Scope) : Prop :=
  ∃ r ∈ effective roles, ∃ m, Scope.activate r.id s = some m ∧ ∃ t ∈ r.templates, g = t.render m

namespace Resolver

theorem getElem?_roles_compile (roles : List Role) (maxSteps i : Nat) :
    (compile roles maxSteps).roles[i]? =
      (Role.effective roles)[i]?.map fun r => ⟨r, r.templates⟩ := by
  simp [compile]

/-- **A compiled resolver grants what its roles grant.** -/
theorem mem_grants {roles : List Role} {maxSteps : Nat} {s g : Scope} :
    g ∈ (compile roles maxSteps).grants s ↔ Role.Grants roles s g := by
  have hlookup : ∀ i m, (i, m) ∈ (compile roles maxSteps).index.lookup s ↔
      ∃ r, (Role.effective roles)[i]? = some r ∧ Scope.activate r.id s = some m := by
    intro i m
    rw [compile, RoleIndex.mem_lookup (Role.nodup_ids_effective roles)]
    simp [List.getElem?_map]
  simp only [grants, List.mem_flatMap, Prod.exists, hlookup, Role.Grants]
  constructor
  · rintro ⟨i, m, ⟨r, hr, hm⟩, hg⟩
    simp only [getElem?_roles_compile, hr, Option.map_some, List.mem_map] at hg
    obtain ⟨t, ht, rfl⟩ := hg
    exact ⟨r, List.mem_of_getElem? hr, m, hm, t, ht, rfl⟩
  · rintro ⟨r, hr, m, hm, t, ht, rfl⟩
    obtain ⟨i, hi⟩ := List.getElem?_of_mem hr
    refine ⟨i, m, ⟨r, hi, hm⟩, ?_⟩
    simp only [getElem?_roles_compile, hi, Option.map_some, List.mem_map]
    exact ⟨t, ht, rfl⟩

end Resolver

end DelegatedScopes
